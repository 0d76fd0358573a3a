import CachePurge.Proofs.Fanout.Machine
import Mathlib.Data.Finset.Card

/-!
A fan-out is a bounded barrier that loses nothing, whatever the order of its steps. Every permit is
free, held or with a running request; every request is in exactly one place on its way from pending
to collected; and counters, results and failures are those of the requests that got far enough.
-/

namespace CachePurge.Fanout

variable {κ : Type}

theorem results_append (ended : List (Attempt κ)) (request : Attempt κ) :
    results (ended ++ [request]) =
      (results ended).record request.key request.outcome.isSuccess := by
  rw [results, List.foldl_append]
  rfl

theorem failures_append (ended more : List (Attempt κ)) :
    failures (ended ++ more) = failures ended ++ failures more :=
  List.filterMap_append

theorem count_append (tally : Tally) (ended : List (Attempt κ)) (request : Attempt κ) :
    count tally (ended ++ [request]) =
      (count tally ended).request request.outcome.isSuccess request.latency := by
  rw [count, List.foldl_append]
  rfl

theorem nodup_eraseDups {α : Type} [DecidableEq α] (xs : List α) : xs.eraseDups.Nodup := by
  induction h : xs.length using Nat.strongRecOn generalizing xs with
  | ind n ih =>
      cases xs with
      | nil => exact List.nodup_nil
      | cons x rest =>
          rw [List.eraseDups_cons, List.nodup_cons, List.mem_eraseDups]
          refine ⟨fun inside => ?_, ih _ ?_ _ rfl⟩
          · simp at inside
          · rw [← h]
            exact Nat.lt_succ_of_le (List.length_filter_le _ _)

section Keys
variable [DecidableEq κ]

theorem Results.size_eq_card (r : Results κ) : r.size = (r.outcomes.map (·.1)).toFinset.card := by
  rw [size, keys, ← List.toFinset_card_of_nodup (nodup_eraseDups _)]
  refine congrArg Finset.card (Finset.ext fun key => ?_)
  rw [List.mem_toFinset, List.mem_toFinset, List.mem_eraseDups]

theorem Results.getD_get? (r : Results κ) (key : κ) :
    (r.get? key).getD [] = (r.outcomes.filter (·.1 == key)).map (·.2) := by
  rw [get?]
  cases (r.outcomes.filter (·.1 == key)).map (·.2) <;> rfl

theorem filter_outcomes (ended : List (Attempt κ)) (key : κ) :
    (results ended).outcomes.filter (·.1 == key) =
      (ended.filter (·.key == key)).map fun a => (a.key, a.outcome.isSuccess) := by
  rw [results_outcomes, List.filter_map]
  rfl

/-- The outcomes of a key are those of the requests for it. -/
theorem getD_get?_results (ended : List (Attempt κ)) (key : κ) :
    ((results ended).get? key).getD [] =
      (ended.filter (·.key == key)).map (·.outcome.isSuccess) := by
  rw [Results.getD_get?, filter_outcomes, List.map_map]
  rfl

/-- There are outcomes of those keys only that something was requested for. -/
theorem isSome_get?_results (ended : List (Attempt κ)) (key : κ) :
    ((results ended).get? key).isSome = true ↔ ∃ request ∈ ended, request.key = key := by
  have some : ((results ended).get? key).isSome = true ↔ ended.filter (·.key == key) ≠ [] := by
    rw [Results.get?, filter_outcomes]
    cases ended.filter (·.key == key) <;> simp
  rw [some, ne_eq, List.filter_eq_nil_iff]
  simp only [beq_iff_eq, not_forall, not_not, exists_prop]

end Keys

namespace Machine

/-- Where the requests of a fan-out are, with those collected and those ended in the order in which
that happened to them. -/
structure Lossless (requests : List (Attempt κ)) (tally : Tally) (m : Machine κ)
    (collected finished : List (Attempt κ)) : Prop where
  places : (collected ++ m.ended ++ m.running ++ m.phase.inHand ++ m.pending).Perm requests
  results : m.results = Fanout.results collected
  failures : m.failures = Fanout.failures collected
  ends : finished.Perm (collected ++ m.ended)
  counted : m.tally = count tally finished

structure Invariant (setting : Nat) (requests : List (Attempt κ)) (tally : Tally)
    (m : Machine κ) : Prop where
  permits : m.permits + m.running.length + m.phase.held = limit setting
  lossless : ∃ collected finished, Lossless requests tally m collected finished
  exhausted : m.phase = .joining ∨ m.phase = .returned → m.pending = []
  idle : m.phase = .returned → m.running = [] ∧ m.ended = []

variable {setting : Nat} {requests : List (Attempt κ)} {tally : Tally} {m m' : Machine κ}

theorem start_invariant (setting : Nat) (requests : List (Attempt κ)) (tally : Tally) :
    Invariant setting requests tally
      { pending := requests, phase := .pulling, permits := limit setting, running := [],
        ended := [], results := .empty, tally, failures := [] } where
  permits := rfl
  lossless := ⟨[], [], .refl _, rfl, rfl, .refl _, rfl⟩
  exhausted := by rintro (h | h) <;> cases h
  idle := by intro h; cases h

/-- Collecting moves a request on, and leaves the counters alone. -/
theorem Lossless.collect {collected finished : List (Attempt κ)}
    (lossless : Lossless requests tally m collected finished) {request : Attempt κ}
    {before after : List (Attempt κ)} (ended : m.ended = before ++ request :: after) :
    Lossless requests tally (m.collect request (before ++ after)) (collected ++ [request])
      finished := by
  obtain ⟨places, results, failures, ends, counted⟩ := lossless
  have moved : (collected ++ [request] ++ (before ++ after)).Perm (collected ++ m.ended) := by
    rw [ended, List.append_assoc, List.singleton_append]
    exact List.perm_middle.symm.append_left collected
  refine ⟨?_, ?_, ?_, ends.trans moved.symm, counted⟩
  · exact (((moved.append_right _).append_right _).append_right _).trans places
  · rw [results_append, ← results]
    rfl
  · rw [failures_append, ← failures]
    rfl

/-- A request that ends is counted. -/
theorem Lossless.finish {collected finished : List (Attempt κ)}
    (lossless : Lossless requests tally m collected finished) {request : Attempt κ}
    {before after : List (Attempt κ)} (running : m.running = before ++ request :: after) :
    Lossless requests tally (m.finish request (before ++ after)) collected
      (finished ++ [request]) := by
  obtain ⟨places, results, failures, ends, counted⟩ := lossless
  have moved : (collected ++ (m.ended ++ [request]) ++ (before ++ after)).Perm
      (collected ++ m.ended ++ m.running) := by
    rw [running, ← List.append_assoc collected, List.append_assoc _ [request],
      List.singleton_append]
    exact List.perm_middle.symm.append_left _
  refine ⟨?_, results, failures, ?_, ?_⟩
  · exact ((moved.append_right _).append_right _).trans places
  · rw [Machine.finish, ← List.append_assoc]
    exact ends.append_right [request]
  · rw [count_append, ← counted]
    rfl

/-- A request that is pulled or spawned is in another place, and that is all. -/
theorem Lossless.move {collected finished : List (Attempt κ)}
    (lossless : Lossless requests tally m collected finished) {pending running : List (Attempt κ)}
    {phase : Phase κ} {permits : Nat}
    (moved : running ++ phase.inHand ++ pending = m.running ++ m.phase.inHand ++ m.pending) :
    Lossless requests tally { m with pending, phase, permits, running } collected finished := by
  obtain ⟨places, results, failures, ends, counted⟩ := lossless
  refine ⟨?_, results, failures, ends, counted⟩
  simp only [List.append_assoc] at moved places ⊢
  rwa [moved]

theorem Step.invariant (step : Step m m') (invariant : Invariant setting requests tally m) :
    Invariant setting requests tally m' := by
  obtain ⟨permits, ⟨collected, finished, lossless⟩, exhausted, idle⟩ := invariant
  cases step with
  | @pull request rest phase pending =>
      refine ⟨?_, ⟨collected, finished, lossless.move ?_⟩, ?_, ?_⟩
      · rw [phase] at permits
        exact permits
      · rw [phase, pending, Phase.inHand, Phase.inHand, List.append_nil, List.append_assoc,
          List.singleton_append]
      · rintro (h | h) <;> cases h
      · intro h
        cases h
  | @acquire request free phase permit =>
      refine ⟨?_, ⟨collected, finished, lossless.move ?_⟩, ?_, ?_⟩
      · rw [phase, permit] at permits
        simp only [Phase.held] at permits ⊢
        omega
      · rw [phase, Phase.inHand, Phase.inHand]
      · rintro (h | h) <;> cases h
      · intro h
        cases h
  | @drain request other before after phase ended =>
      refine ⟨permits, ⟨_, _, lossless.collect ended⟩, exhausted, fun returned => ?_⟩
      rw [Machine.collect, phase] at returned
      cases returned
  | @spawn request phase =>
      refine ⟨?_, ⟨collected, finished, lossless.move ?_⟩, ?_, ?_⟩
      · rw [phase] at permits
        simp only [Phase.held, List.length_append, List.length_singleton] at permits ⊢
        omega
      · rw [phase, Phase.inHand, Phase.inHand, List.append_nil]
      · rintro (h | h) <;> cases h
      · intro h
        cases h
  | @finish request before after running =>
      refine ⟨?_, ⟨_, _, lossless.finish running⟩, exhausted, fun returned => ?_⟩
      · rw [running] at permits
        simp only [Machine.finish, List.length_append, List.length_cons] at permits ⊢
        omega
      · have none := (idle returned).1
        rw [running] at none
        simp at none
  | close phase pending =>
      refine ⟨?_, ⟨collected, finished, lossless.move ?_⟩, fun _ => pending, ?_⟩
      · rw [phase] at permits
        exact permits
      · rw [phase, Phase.inHand, Phase.inHand]
      · intro h
        cases h
  | @join request before after phase ended =>
      refine ⟨permits, ⟨_, _, lossless.collect ended⟩, exhausted, fun returned => ?_⟩
      rw [Machine.collect, phase] at returned
      cases returned
  | «return» phase running ended =>
      refine ⟨?_, ⟨collected, finished, lossless.move ?_⟩, fun _ => exhausted (.inl phase),
        fun _ => ⟨running, ended⟩⟩
      · rw [phase] at permits
        exact permits
      · rw [phase, Phase.inHand, Phase.inHand]

theorem Reaches.invariant (run : Reaches m m') (invariant : Invariant setting requests tally m) :
    Invariant setting requests tally m' := by
  induction run with
  | refl => exact invariant
  | tail _ step ih => exact step.invariant ih

/-- How many steps a phase has still to do, in the loop and for the request in hand. -/
def weight : Phase κ → Nat
  | .pulling => 2
  | .waiting _ => 6
  | .holding _ => 5
  | .joining => 1
  | .returned => 0

/-- How many steps are left: five for each request, and two to end the loop. -/
def remaining (m : Machine κ) : Nat :=
  5 * m.pending.length + weight m.phase + 2 * m.running.length + m.ended.length

theorem Step.remaining (step : Step m m') : m.remaining = m'.remaining + 1 := by
  cases step with
  | pull phase pending =>
      simp only [Machine.remaining, phase, pending, weight, List.length_cons]
      omega
  | acquire phase _ =>
      simp only [Machine.remaining, phase, weight]
      omega
  | drain _ ended | join _ ended =>
      simp only [Machine.remaining, Machine.collect, ended, List.length_append, List.length_cons]
      omega
  | spawn phase =>
      simp only [Machine.remaining, phase, weight, List.length_append, List.length_singleton]
      omega
  | finish running =>
      simp only [Machine.remaining, Machine.finish, running, List.length_append, List.length_cons,
        List.length_nil]
      omega
  | close phase _ | «return» phase _ _ =>
      simp only [Machine.remaining, phase, weight]
      omega

theorem limit_pos (setting : Nat) : 0 < limit setting :=
  Nat.le_max_right setting 1

/-- A fan-out that has not returned is not stuck. At worst it waits for one that runs. -/
theorem Invariant.progress (invariant : Invariant setting requests tally m)
    (working : m.phase ≠ .returned) : ∃ m', Step m m' := by
  cases running : m.running with
  | cons request rest =>
      have first : m.running = [] ++ request :: rest := running
      exact ⟨_, .finish first⟩
  | nil =>
      have permits := invariant.permits
      cases phase : m.phase with
      | pulling =>
          cases pending : m.pending with
          | nil => exact ⟨_, .close phase pending⟩
          | cons request rest => exact ⟨_, .pull phase pending⟩
      | waiting request =>
          rw [running, phase] at permits
          have positive := limit_pos setting
          simp only [List.length_nil, Phase.held] at permits
          obtain ⟨free, permit⟩ := Nat.exists_eq_succ_of_ne_zero (n := m.permits) (by omega)
          exact ⟨_, .acquire phase permit⟩
      | holding request => exact ⟨_, .spawn phase⟩
      | joining =>
          cases ended : m.ended with
          | nil => exact ⟨_, .return phase running ended⟩
          | cons request rest =>
              have first : m.ended = [] ++ request :: rest := ended
              exact ⟨_, .join phase first⟩
      | returned => exact absurd phase working

/-- From wherever a fan-out is, it gets to return. -/
theorem Invariant.returns (invariant : Invariant setting requests tally m) :
    ∃ m', Reaches m m' ∧ m'.phase = .returned := by
  induction left : m.remaining using Nat.strongRecOn generalizing m with
  | ind n ih =>
      by_cases returned : m.phase = .returned
      · exact ⟨m, .refl, returned⟩
      · obtain ⟨next, step⟩ := invariant.progress returned
        obtain ⟨last, run, arrived⟩ := ih next.remaining (by rw [← left, step.remaining]; omega)
          (step.invariant invariant) rfl
        exact ⟨last, .head step run, arrived⟩

theorem Invariant.bounded (invariant : Invariant setting requests tally m) :
    m.running.length ≤ limit setting ∧ m.outstanding ≤ limit setting + 1 := by
  have permits := invariant.permits
  have hand : m.phase.inHand.length ≤ 1 := by
    cases m.phase <;> simp [Phase.inHand]
  constructor
  · omega
  · rw [outstanding]
    omega

/-- A fan-out that has returned has ended and collected every request once. -/
theorem Invariant.complete (invariant : Invariant setting requests tally m)
    (returned : m.phase = .returned) :
    ∃ collected finished, collected.Perm requests ∧ finished.Perm requests ∧
      m.results = Fanout.results collected ∧ m.failures = Fanout.failures collected ∧
      m.tally = count tally finished := by
  obtain ⟨-, ⟨collected, finished, lossless⟩, exhausted, idle⟩ := invariant
  obtain ⟨places, results, failures, ends, counted⟩ := lossless
  obtain ⟨running, ended⟩ := idle returned
  rw [exhausted (.inr returned), running, ended, returned, Phase.inHand] at places
  simp only [List.append_nil] at places
  rw [ended, List.append_nil] at ends
  exact ⟨collected, finished, places, ends.trans places, results, failures, counted⟩

/-- In every order of its steps a fan-out runs no more requests than its setting says and is at most
one ahead of them, is never stuck, and returns only with every outcome under its key and every
request counted. -/
theorem barrier [DecidableEq κ] (setting : Nat) (requests : List (Attempt κ)) (tally : Tally)
    (within : setting ≤ maxConcurrency) :
    ∃ first, start setting requests tally = .ok first ∧ ∀ m, Reaches first m →
      m.running.length ≤ limit setting ∧
      m.outstanding ≤ limit setting + 1 ∧
      (m.results.totalRequests < requests.length → ∃ m', Step m m') ∧
      (m.phase ≠ .returned → ∃ m', Step m m') ∧
      (∃ last, Reaches m last ∧ last.phase = .returned) ∧
      (m.phase = .returned →
        (∀ key, ((m.results.get? key).getD []).Perm
          ((requests.filter (·.key == key)).map (·.outcome.isSuccess))) ∧
        (∀ key, (m.results.get? key).isSome = true ↔ ∃ request ∈ requests, request.key = key) ∧
        m.results.totalRequests = requests.length ∧
        m.results.size = (requests.map (·.key)).toFinset.card ∧
        m.tally.requestsSent = tally.requestsSent + .ofNat requests.length ∧
        m.tally.requestsFailed = tally.requestsFailed + .ofNat (failureCount requests) ∧
        m.failures.Perm (Fanout.failures requests) ∧
        m.failures.length = failureCount requests) := by
  refine ⟨_, if_neg (Nat.not_lt.mpr within), fun m run => ?_⟩
  have invariant := run.invariant (start_invariant setting requests tally)
  have final (returned : m.phase = .returned) : m.results.totalRequests = requests.length := by
    obtain ⟨collected, _, perm, -, results, -, -⟩ := invariant.complete returned
    rw [results, Results.totalRequests, results_outcomes, List.length_map, perm.length_eq]
  refine ⟨invariant.bounded.1, invariant.bounded.2, fun missing => ?_, invariant.progress,
    invariant.returns, fun returned => ?_⟩
  · refine invariant.progress fun returned => ?_
    rw [final returned] at missing
    exact Nat.lt_irrefl _ missing
  · obtain ⟨collected, finished, perm, perm', results, failures, counted⟩ :=
      invariant.complete returned
    have noted : m.failures.Perm (Fanout.failures requests) := by
      rw [failures]
      exact perm.filterMap _
    refine ⟨fun key => ?_, fun key => ?_, final returned, ?_, ?_, ?_, noted, ?_⟩
    · rw [results, getD_get?_results]
      exact (perm.filter _).map _
    · rw [results, isSome_get?_results]
      simp only [perm.mem_iff]
    · rw [results, Results.size_eq_card, results_outcomes, List.map_map]
      exact congrArg Finset.card (List.toFinset_eq_of_perm _ _ (perm.map _))
    · rw [counted, count_requestsSent, perm'.length_eq]
    · rw [counted, count_requestsFailed, failureCount, perm'.countP_eq, failureCount]
    · rw [noted.length_eq, length_failures]

/-- Of three requests under two keys one panics: all three are there in the end, and one failure. -/
theorem barrier_three :
    ∃ first : Machine Nat,
      start 2 [⟨1, 5, .answered⟩, ⟨1, 3, .panicked none⟩, ⟨2, 0, .answered⟩] .zero = .ok first ∧
      ∀ m, Reaches first m → m.running.length ≤ 2 ∧
        (m.phase = .returned → m.results.totalRequests = 3 ∧ m.failures.length = 1) := by
  obtain ⟨first, started, all⟩ := barrier 2
    [⟨1, 5, .answered⟩, ⟨1, 3, .panicked none⟩, ⟨2, 0, .answered⟩] .zero (by decide)
  refine ⟨first, started, fun m run => ?_⟩
  obtain ⟨bounded, -, -, -, -, final⟩ := all m run
  refine ⟨bounded, fun returned => ?_⟩
  obtain ⟨-, -, total, -, -, -, -, failed⟩ := final returned
  exact ⟨total, failed⟩

end Machine
end CachePurge.Fanout
