import CachePurge.Proofs.Fanout.Barrier

/-!
The schedule by which a fan-out is run is one of the orders in which the machine may take its steps:
whenever the schedule starts a request there is a permit for it, once those have ended that the
schedule ends by then.
-/

namespace CachePurge.Fanout

/-- In ascending order only what comes later is greater. -/
theorem length_filter_lt_of_pairwise {xs : List Nat} (ascending : xs.Pairwise (· ≤ ·)) {i t : Nat}
    (at_i : xs[i]? = some t) : (xs.filter (t < ·)).length + (i + 1) ≤ xs.length := by
  induction xs generalizing i with
  | nil => cases at_i
  | cons x rest ih =>
      obtain ⟨below, ascending⟩ := List.pairwise_cons.mp ascending
      cases i with
      | zero =>
          rw [List.getElem?_cons_zero, Option.some_inj] at at_i
          rw [List.filter_cons, at_i, if_neg (by simp), List.length_cons]
          exact Nat.succ_le_succ (List.length_filter_le _ _)
      | succ i =>
          rw [List.getElem?_cons_succ] at at_i
          have beyond : ¬ t < x := Nat.not_lt.mpr (below t (List.mem_of_getElem? at_i))
          rw [List.filter_cons, if_neg (by simpa using beyond), List.length_cons]
          exact Nat.succ_le_succ (ih ascending at_i)

/-- Whatever ends after a time ends after all earlier times. -/
theorem filter_lt_filter_lt {s t : Nat} (later : s ≤ t) (ends : List Nat) :
    (ends.filter (s < ·)).filter (t < ·) = ends.filter (t < ·) := by
  rw [List.filter_filter]
  refine List.filter_congr fun x _ => ?_
  rw [Bool.eq_iff_iff, Bool.and_eq_true, decide_eq_true_eq, decide_eq_true_eq]
  omega

section StartTime
variable {limit : Nat} (positive : 0 < limit) (ends : List Nat) (produced : Nat)

include positive in
/-- A request starts as it is produced if there is room for it then, and else as that one ends after
which there is. -/
theorem startTime_cases :
    (ends.filter (produced < ·)).length < limit ∧ startTime limit ends produced = produced ∨
      ∃ running : List Nat, running.Perm (ends.filter (produced < ·)) ∧
        running.Pairwise (· ≤ ·) ∧ limit ≤ running.length ∧
        running[running.length - limit]? = some (startTime limit ends produced) := by
  have perm := List.mergeSort_perm (ends.filter (produced < ·)) fun a b => decide (a ≤ b)
  rw [startTime]
  split
  · next room => exact .inl ⟨by rwa [perm.length_eq] at room, rfl⟩
  · next full =>
      have ascending : ((ends.filter (produced < ·)).mergeSort fun a b => decide (a ≤ b)).Pairwise
          fun a b => decide (a ≤ b) = true :=
        List.pairwise_mergeSort (fun a b c => by simp only [decide_eq_true_eq]; omega)
          (fun a b => by simp only [Bool.or_eq_true, decide_eq_true_eq]; omega) _
      generalize (ends.filter (produced < ·)).mergeSort (fun a b => decide (a ≤ b)) = running at *
      simp only [decide_eq_true_eq] at ascending
      have bound : running.length - limit < running.length := by omega
      refine .inr ⟨running, perm, ascending, Nat.le_of_not_lt full, ?_⟩
      rw [List.getD_eq_getElem?_getD, List.getElem?_eq_getElem bound, Option.getD_some]

include positive in
theorem startTime_spec : produced ≤ startTime limit ends produced ∧
    (ends.filter (startTime limit ends produced < ·)).length < limit := by
  rcases startTime_cases positive ends produced with ⟨room, now⟩ | waits
  · rw [now]
    exact ⟨Nat.le_refl _, room⟩
  · obtain ⟨running, perm, ascending, full, at_i⟩ := waits
    have inside := perm.mem_iff.mp (List.mem_of_getElem? at_i)
    have later := Nat.le_of_lt (of_decide_eq_true (List.mem_filter.mp inside).2)
    have behind := length_filter_lt_of_pairwise ascending at_i
    refine ⟨later, ?_⟩
    rw [← filter_lt_filter_lt later, ← (perm.filter _).length_eq]
    omega

end StartTime

variable {κ : Type}

namespace Machine

/-- Running requests may end one after the other in any order. -/
theorem reaches_finish {m : Machine κ} (first others : List (Attempt κ))
    (running : m.running.Perm (first ++ others)) :
    ∃ left, left.Perm others ∧ Reaches m
      { m with
        running := left
        ended := m.ended ++ first
        permits := m.permits + first.length
        tally := count m.tally first } := by
  induction first generalizing m with
  | nil => exact ⟨m.running, running, by rw [List.append_nil]; exact .refl⟩
  | cons request rest ih =>
      obtain ⟨before, after, at_request⟩ :=
        List.append_of_mem (running.mem_iff.mpr (List.mem_append_left _ List.mem_cons_self))
      rw [at_request] at running
      have left : (before ++ after).Perm (rest ++ others) :=
        (List.perm_cons request).mp (List.perm_middle.symm.trans running)
      obtain ⟨last, perm, run⟩ := ih (m := m.finish request (before ++ after)) left
      refine ⟨last, perm, .head (.finish at_request) ?_⟩
      rw [List.length_cons, Nat.add_comm rest.length, ← Nat.add_assoc, count_cons,
        ← List.singleton_append, ← List.append_assoc]
      exact run

/-- Once enough running requests have ended, the next one gets a permit. -/
theorem reaches_spawn {m : Machine κ} {first others rest : List (Attempt κ)} {request : Attempt κ}
    (running : m.running.Perm (first ++ others)) (pulling : m.phase = .pulling)
    (pending : m.pending = request :: rest) (free : 0 < m.permits + first.length) :
    ∃ left permits, left.Perm others ∧ permits + 1 = m.permits + first.length ∧ Reaches m
      { m with
        pending := rest
        permits
        running := left ++ [request]
        ended := m.ended ++ first
        tally := count m.tally first } := by
  obtain ⟨left, perm, run⟩ := reaches_finish first others running
  obtain ⟨permits, permit⟩ := Nat.exists_eq_succ_of_ne_zero (Nat.pos_iff_ne_zero.mp free)
  refine ⟨left, permits, perm, permit.symm, ?_⟩
  have spawned := ((run.tail (.pull pulling pending)).tail (.acquire rfl permit)).tail (.spawn rfl)
  rw [pulling]
  exact spawned

theorem reaches_join {m : Machine κ} (joining : m.phase = .joining) (collected : List (Attempt κ))
    (results : m.results = Fanout.results collected)
    (failures : m.failures = Fanout.failures collected) :
    Reaches m
      { m with
        ended := []
        results := Fanout.results (collected ++ m.ended)
        failures := Fanout.failures (collected ++ m.ended) } := by
  induction ended : m.ended generalizing m collected with
  | nil =>
      rw [List.append_nil, ← results, ← failures, ← ended]
  | cons request rest ih =>
      have first : m.ended = [] ++ request :: rest := ended
      have run := @ih (m.collect request ([] ++ rest)) joining (collected ++ [request])
        (by rw [results_append, ← results]; rfl) (by rw [failures_append, ← failures]; rfl) rfl
      rw [List.append_assoc, List.singleton_append] at run
      exact .head (.join joining first) run

end Machine

/-- A request with its span and its number in the schedule. -/
abbrev Numbered (κ : Type) := (Span × Attempt κ) × Nat

/-- Whether a request ends before another, or at the same time but with a smaller number. -/
def precedes (x y : Numbered κ) : Bool :=
  List.zipIdxLE (fun a b => decide (a.1.finished ≤ b.1.finished)) x y

theorem precedes_iff {x y : Numbered κ} : precedes x y = true ↔
    x.1.1.finished < y.1.1.finished ∨ x.1.1.finished = y.1.1.finished ∧ x.2 ≤ y.2 := by
  simp only [precedes, List.zipIdxLE, decide_eq_true_eq]
  split
  · next le =>
      split
      · next ge =>
          rw [decide_eq_true_eq]
          omega
      · next gt => simp only [true_iff]; omega
  · next gt => simp only [Bool.false_eq_true, false_iff]; omega

theorem pairwise_sort (xs : List (Numbered κ)) :
    (xs.mergeSort precedes).Pairwise fun x y => precedes x y = true := by
  refine List.pairwise_mergeSort (fun a b c => ?_) (fun a b => ?_) xs
  · simp only [precedes_iff]
    omega
  · rw [Bool.or_eq_true, precedes_iff, precedes_iff]
    omega

/-- Only one order of some requests with different numbers is ascending. -/
theorem map_of_pairwise {timed : List (Span × Attempt κ)} {sorted : List (Numbered κ)}
    (perm : sorted.Perm timed.zipIdx)
    (ascending : sorted.Pairwise fun x y => precedes x y = true) :
    sorted.map (·.1.2) =
      (timed.mergeSort fun a b => decide (a.1.finished ≤ b.1.finished)).map (·.2) := by
  have same : sorted = timed.zipIdx.mergeSort precedes := by
    refine List.Perm.eq_of_pairwise (fun x y in_x in_y before after => ?_) ascending
      (pairwise_sort _) (perm.trans (List.mergeSort_perm _ _).symm)
    have number : x.2 = y.2 := by
      rw [precedes_iff] at before after
      omega
    have at_x := List.mem_zipIdx_iff_getElem?.mp (perm.mem_iff.mp in_x)
    have at_y := List.mem_zipIdx_iff_getElem?.mp (List.mem_mergeSort.mp in_y)
    rw [number, at_y, Option.some_inj] at at_x
    exact Prod.ext at_x.symm number
  conv_rhs => rw [← List.mergeSort_zipIdx, List.map_map]
  rw [same]
  rfl

/-- A machine has come as far as a schedule that is about to produce the request of some number:
some requests are over, and those that run end at the times given. -/
structure InStep (limit : Nat) (tally : Tally) (ends : List Nat) (produced number : Nat)
    (m : Machine κ) (gone busy : List (Numbered κ)) : Prop where
  pulling : m.phase = .pulling
  permits : m.permits + m.running.length = limit
  runs : m.running.Perm (busy.map (·.1.2))
  ended : m.ended = gone.map (·.1.2)
  results : m.results = .empty
  failures : m.failures = []
  counted : m.tally = count tally m.ended
  times : (busy.map (·.1.1.finished)).Perm ends
  ascending : (gone ++ busy).Pairwise fun x y => precedes x y = true
  past : ∀ x ∈ gone, x.1.1.finished ≤ produced
  numbers : ∀ x ∈ gone ++ busy, x.2 < number

theorem count_append_count (tally : Tally) (ended more : List (Attempt κ)) :
    count (count tally ended) more = count tally (ended ++ more) :=
  (List.foldl_append ..).symm

section Advance
variable {limit : Nat} {tally : Tally} {ends : List Nat} {produced number : Nat} {m : Machine κ}
  {gone busy : List (Numbered κ)}

/-- Those that are over by some time stay before the others, and before one that starts then. -/
theorem ascending_advance (ascending : (gone ++ busy).Pairwise fun x y => precedes x y = true)
    (numbers : ∀ x ∈ gone ++ busy, x.2 < number) {t : Nat}
    (past : ∀ x ∈ gone, x.1.1.finished ≤ t) {next : Numbered κ} (later : t ≤ next.1.1.finished)
    (numbered : next.2 = number) :
    (gone ++ busy.filter (fun x => decide (x.1.1.finished ≤ t)) ++
      (busy.filter (fun x => !decide (x.1.1.finished ≤ t)) ++ [next]).mergeSort
        precedes).Pairwise fun x y => precedes x y = true := by
  have now : ∀ x ∈ gone ++ busy.filter (fun x => decide (x.1.1.finished ≤ t)),
      x.1.1.finished ≤ t := by
    intro x inside
    cases List.mem_append.mp inside with
    | inl before => exact past x before
    | inr just => exact of_decide_eq_true (List.mem_filter.mp just).2
  refine List.pairwise_append.mpr ⟨?_, pairwise_sort _, fun x in_x y in_y => ?_⟩
  · exact ascending.sublist (List.filter_sublist.append_left gone)
  · have x_past := now x in_x
    have x_number : x.2 < number := by
      refine numbers x ?_
      cases List.mem_append.mp in_x with
      | inl before => exact List.mem_append_left _ before
      | inr just => exact List.mem_append_right _ (List.mem_filter.mp just).1
    rw [precedes_iff]
    cases List.mem_append.mp (List.mem_mergeSort.mp in_y) with
    | inl runs =>
        have y_later := (List.mem_filter.mp runs).2
        rw [Bool.not_eq_true', decide_eq_false_iff_not] at y_later
        omega
    | inr new =>
        rw [List.mem_singleton.mp new]
        omega

/-- The requests that end by the start of the next one end, and then the next one is spawned. -/
theorem InStep.advance (positive : 0 < limit) {request : Attempt κ} {rest : List (Attempt κ)}
    (step : InStep limit tally ends produced number m gone busy)
    (pending : m.pending = request :: rest) :
    let t := startTime limit ends produced
    ∃ m' gone' busy', Machine.Reaches m m' ∧ m'.pending = rest ∧
      InStep limit tally ((t + request.duration) :: ends.filter (t < ·)) t (number + 1) m' gone'
        busy' ∧
      (gone' ++ busy').Perm
        (gone ++ busy ++ [((⟨produced, t, t + request.duration⟩, request), number)]) := by
  intro t
  obtain ⟨later, room⟩ := startTime_spec positive ends produced
  change produced ≤ t at later
  change (ends.filter (t < ·)).length < limit at room
  let next : Numbered κ := ((⟨produced, t, t + request.duration⟩, request), number)
  let just := busy.filter fun x => decide (x.1.1.finished ≤ t)
  let still := busy.filter fun x => !decide (x.1.1.finished ≤ t)
  have split : busy.Perm (just ++ still) := (List.filter_append_perm _ _).symm
  have times : (still.map (·.1.1.finished)).Perm (ends.filter (t < ·)) := by
    have kept := step.times.filter (t < ·)
    rw [List.filter_map] at kept
    have same : still = busy.filter ((fun e => decide (t < e)) ∘ fun x => x.1.1.finished) :=
      List.filter_congr fun x _ => by
        simp only [Function.comp_apply, ← decide_not, Nat.not_le]
    rwa [same]
  have running : m.running.Perm (just.map (·.1.2) ++ still.map (·.1.2)) := by
    rw [← List.map_append]
    exact step.runs.trans (split.map _)
  have places : m.permits + (just.map (·.1.2)).length + (still.map (·.1.2)).length = limit := by
    have all := step.permits
    rw [running.length_eq, List.length_append] at all
    omega
  have few : (still.map (·.1.2)).length < limit := by
    rw [List.length_map, ← List.length_map, times.length_eq]
    exact room
  obtain ⟨left, permits, perm, permit, run⟩ :=
    Machine.reaches_spawn running step.pulling pending (by omega)
  have sorted : ((still ++ [next]).mergeSort precedes).Perm (still ++ [next]) :=
    List.mergeSort_perm _ _
  have whole : (gone ++ just ++ (still ++ [next]).mergeSort precedes).Perm
      (gone ++ busy ++ [next]) := by
    refine (sorted.append_left _).trans ?_
    rw [List.append_assoc, List.append_assoc, ← List.append_assoc just]
    exact (split.symm.append_right [next]).append_left gone
  refine ⟨_, gone ++ just, (still ++ [next]).mergeSort precedes, run, rfl, ?_, ?_⟩
  · constructor
    case pulling => exact step.pulling
    case permits =>
      change permits + (left ++ [request]).length = limit
      rw [List.length_append, List.length_singleton, perm.length_eq]
      omega
    case runs =>
      have all := sorted.map (·.1.2)
      rw [List.map_append] at all
      exact (perm.append_right _).trans all.symm
    case ended => rw [List.map_append, step.ended]
    case results => exact step.results
    case failures => exact step.failures
    case counted => rw [step.counted, count_append_count]
    case times =>
      refine (sorted.map _).trans ?_
      rw [List.map_append]
      exact List.perm_append_comm.trans (times.cons _)
    case ascending =>
      exact ascending_advance step.ascending step.numbers
        (fun x inside => (step.past x inside).trans later) (Nat.le_add_right t _) rfl
    case past =>
      intro x inside
      cases List.mem_append.mp inside with
      | inl before => exact (step.past x before).trans later
      | inr just => exact of_decide_eq_true (List.mem_filter.mp just).2
    case numbers =>
      intro x inside
      cases List.mem_append.mp (whole.mem_iff.mp inside) with
      | inl before => exact Nat.lt_succ_of_lt (step.numbers x before)
      | inr new =>
          rw [List.mem_singleton.mp new]
          exact Nat.lt_succ_self number
  · exact whole

/-- When there is nothing more to produce, all that is left ends and is joined. -/
theorem InStep.finish (step : InStep limit tally ends produced number m gone busy)
    (pending : m.pending = []) :
    ∃ m', Machine.Reaches m m' ∧ m'.phase = .returned ∧
      m'.results = Fanout.results ((gone ++ busy).map (·.1.2)) ∧
      m'.tally = count tally ((gone ++ busy).map (·.1.2)) ∧
      m'.failures = Fanout.failures ((gone ++ busy).map (·.1.2)) := by
  obtain ⟨left, perm, run⟩ := Machine.reaches_finish (m := m) (busy.map (·.1.2)) []
    (by rw [List.append_nil]; exact step.runs)
  have none : left = [] := List.perm_nil.mp perm
  have closed := run.tail (.close step.pulling pending)
  have joined := closed.trans (Machine.reaches_join rfl [] step.results step.failures)
  refine ⟨_, joined.tail (.return rfl none rfl), rfl, ?_, ?_, ?_⟩
  · rw [List.nil_append, List.map_append, step.ended]
  · change count m.tally _ = _
    rw [step.counted, count_append_count, List.map_append, step.ended]
  · rw [List.nil_append, List.map_append, step.ended]

theorem InStep.returns (positive : 0 < limit) {requests : List (Attempt κ)}
    (step : InStep limit tally ends produced number m gone busy) (pending : m.pending = requests) :
    ∃ (m' : Machine κ) (sorted : List (Numbered κ)), Machine.Reaches m m' ∧ m'.phase = .returned ∧
      sorted.Pairwise (fun x y => precedes x y = true) ∧
      sorted.Perm (gone ++ busy ++
        ((scheduleAfter limit ends produced (requests.map (·.duration))).zip requests).zipIdx
          number) ∧
      m'.results = Fanout.results (sorted.map (·.1.2)) ∧
      m'.tally = count tally (sorted.map (·.1.2)) ∧
      m'.failures = Fanout.failures (sorted.map (·.1.2)) := by
  induction requests generalizing m gone busy ends produced number with
  | nil =>
      obtain ⟨m', run, returned, outcome⟩ := step.finish pending
      refine ⟨m', gone ++ busy, run, returned, step.ascending, ?_, outcome⟩
      simp only [List.zip_nil_right, List.zipIdx_nil, List.append_nil]
      exact .refl _
  | cons request rest ih =>
      obtain ⟨next, gone', busy', run, left, step', perm⟩ := step.advance positive pending
      obtain ⟨m', sorted, run', returned, ascending, perm', outcome⟩ := ih step' left
      refine ⟨m', sorted, run.trans run', returned, ascending, perm'.trans ?_, outcome⟩
      simp only [List.map_cons, scheduleAfter, List.zip_cons_cons, List.zipIdx_cons]
      rw [List.append_cons]
      exact perm.append_right _

end Advance

/-- What a fan-out makes of its requests is what the machine makes of them in the order in which the
schedule ends them. -/
theorem reaches_schedule (setting : Nat) (requests : List (Attempt κ)) (tally : Tally)
    (within : setting ≤ maxConcurrency) :
    ∃ first last, Machine.start setting requests tally = .ok first ∧
      Machine.Reaches first last ∧ last.phase = .returned ∧
      last.results = results (byEnd (spans setting requests) requests) ∧
      last.tally = count tally (byEnd (spans setting requests) requests) ∧
      last.failures = failures (byEnd (spans setting requests) requests) := by
  have initial : InStep (Machine.limit setting) tally [] 0 0
      { pending := requests, phase := .pulling, permits := Machine.limit setting, running := [],
        ended := [], results := .empty, tally, failures := [] } [] [] :=
    { pulling := rfl, permits := rfl, runs := .nil, ended := rfl, results := rfl, failures := rfl,
      counted := rfl, times := .nil, ascending := .nil, past := by simp, numbers := by simp }
  obtain ⟨last, sorted, run, returned, ascending, perm, outcome⟩ :=
    initial.returns (Machine.limit_pos setting) rfl
  rw [map_of_pairwise perm ascending] at outcome
  exact ⟨_, last, if_neg (Nat.not_lt.mpr within), run, returned, outcome⟩

end CachePurge.Fanout
