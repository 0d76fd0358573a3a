import CachePurge.Proofs.Vendor.Visit

/-!
The suspension of a vendor's purger, visit by visit. The invariant is that the gate tells, for every
time from now on, just what the responses so far ask for. A visit reads the gate once, at its
beginning; so it is refused inside the hours for which some response suspends the service, and
nowhere else.
-/

namespace CachePurge.Vendor

variable {ε : Type}

/-- At this time one of some exchanges has the service suspended. -/
def SuspendedAt (xs : List Exchange) (now : Nat) (message : String) : Prop :=
  ∃ x ∈ xs, ∃ ends, x.Suspends message ends ∧ x.receivedAt ≤ now ∧ now < ends

/-- From some time on a gate tells what some exchanges ask for. -/
def Tells (gate : Gate) (start : Nat) (xs : List Exchange) : Prop :=
  ∀ now, start ≤ now → now < Gate.lastInstant → ∀ message,
    gate.health now = some message ↔ SuspendedAt xs now message

/-- While an exchange has the service suspended nothing is exchanged. -/
def Spaced (xs : List Exchange) : Prop :=
  xs.Pairwise fun x y => ∀ message ends, x.Suspends message ends → ends ≤ y.sentAt

section Gate
variable {gate : Gate} {start : Nat} {xs : List Exchange}

theorem health_eq_some {now : Nat} {message : String} :
    gate.health now = some message ↔ ∃ ends, gate.closure = some ⟨message, ends⟩ ∧ now < ends := by
  simp only [Gate.health, Gate.current, Option.map_eq_some_iff, Option.filter_eq_some_iff,
    decide_eq_true_eq]
  constructor
  · rintro ⟨⟨_, ends⟩, ⟨closure, within⟩, rfl⟩
    exact ⟨ends, closure, within⟩
  · rintro ⟨ends, closure, within⟩
    exact ⟨_, ⟨closure, within⟩, rfl⟩

theorem not_suspends {x : Exchange} (calm : x.closure? = none) (message : String) (ends : Nat) :
    ¬x.Suspends message ends := by
  intro suspends
  rw [Exchange.closure?_eq_some.mpr suspends] at calm
  cases calm

theorem Tells.later (tells : Tells gate start xs) {start' : Nat} (later : start ≤ start') :
    Tells gate start' xs := fun now from' => tells now (Nat.le_trans later from')

theorem Tells.append_calm (tells : Tells gate start xs) {more : List Exchange}
    (calm : ∀ y ∈ more, y.closure? = none) : Tells gate start (xs ++ more) := by
  intro now from' known message
  rw [tells now from' known message]
  constructor
  · rintro ⟨x, among, suspends⟩
    exact ⟨x, List.mem_append_left more among, suspends⟩
  · rintro ⟨x, among, ends, suspends, within⟩
    refine ⟨x, (List.mem_append.mp among).resolve_right fun later => ?_, ends, suspends, within⟩
    exact not_suspends (calm x later) message ends suspends

/-- A gate that was just closed tells of the exchange for which it was. -/
theorem tells_upTo {x : Exchange} {closure : Closure} (asked : x.closure? = some closure)
    (received : x.receivedAt ≤ start)
    (past : ∀ y ∈ xs, ∀ message ends, y.Suspends message ends → ends ≤ start) :
    Tells (.upTo closure) start (xs ++ [x]) := by
  intro now from' known message
  rw [health_eq_some]
  constructor
  · rintro ⟨ends, same, within⟩
    obtain ⟨rfl, rfl⟩ := Closure.mk.inj (Option.some.inj same)
    refine ⟨x, List.mem_append_right xs (List.mem_singleton_self x), closure.endsAt,
      Exchange.closure?_eq_some.mp asked, Nat.le_trans received from', ?_⟩
    exact Nat.lt_of_lt_of_le within (Nat.min_le_left _ _)
  · rintro ⟨y, among, ends, suspends, -, within⟩
    rcases List.mem_append.mp among with before | last
    · exact absurd (Nat.le_trans (past y before message ends suspends) from') (by omega)
    · obtain rfl := List.mem_singleton.mp last
      obtain rfl := Option.some.inj (asked.symm.trans (Exchange.closure?_eq_some.mpr suspends))
      exact ⟨_, rfl, Nat.lt_min.mpr ⟨within, known⟩⟩

theorem Spaced.append_calm {others : List Exchange} (calm : ∀ y ∈ others, y.closure? = none)
    (spaced : Spaced xs) : Spaced (others ++ xs) := by
  refine List.pairwise_append.mpr ⟨?_, spaced, fun y before _ _ message ends suspends => ?_⟩
  · refine List.pairwise_iff_forall_sublist.mpr fun {y z} pair message ends suspends => ?_
    exact absurd suspends
      (not_suspends (calm y (pair.subset List.mem_cons_self)) message ends)
  · exact absurd suspends (not_suspends (calm y before) message ends)

end Gate

/-- A visit and the exchanges in it went as those before it ask for. It was refused if one of them
had the service suspended when the visit began, and else it went as with a gate that was never
closed. What a fault of the service interrupted has failed. -/
structure Heeds (v : Fastly) (s : Surroundings ε) (earlier : List Exchange)
    (visit : Purger.Visit (Forwarder ε)) (xs : List Exchange) : Prop where
  done : (visit.answer (purger s)).2 = .done
  trades : s.Trades visit.before.outside xs (visit.after (purger s)).outside
  listed : (visit.after (purger s)).requests = visit.before.requests ++ xs.map (·.request)
  refused : ∀ message, SuspendedAt earlier (s.clock visit.before.outside) message →
    xs = [] ∧ visit.left (purger s) = visit.batch.map Invalidation.fail
  admitted : (∀ message, ¬SuspendedAt earlier (s.clock visit.before.outside) message) →
    visit.answer (purger s) = (clearedVisit visit).answer (purger s) ∧
      (visit.after (purger s)).Alike ((clearedVisit visit).after (purger s))
  interrupted : ∀ x ∈ xs, ∀ message ends, x.Suspends message ends →
    ∃ settled, InterruptedAt v visit.kind visit.batch xs settled ∧
      (visit.left (purger s)).drop settled = (visit.batch.drop settled).map Invalidation.fail

/-- Visits, each with the exchanges that were made in it. -/
abbrev Record (ε : Type) : Type := List (Purger.Visit (Forwarder ε) × List Exchange)

def Record.exchanges (made : Record ε) : List Exchange := made.flatMap (·.2)

/-- After some visits, with the exchanges that each of them made. -/
structure Watch (v : Fastly) (s : Surroundings ε) (f : Forwarder ε) (made : Record ε) : Prop where
  heeds : ∀ (before after : Record ε) (visit : Purger.Visit (Forwarder ε)) (xs : List Exchange),
    made = before ++ (visit, xs) :: after → Heeds v s before.exchanges visit xs
  spaced : Spaced made.exchanges
  past : ∀ x ∈ made.exchanges, x.receivedAt ≤ s.clock f.outside
  tells : Tells f.gate (s.clock f.outside) made.exchanges

section Watch
variable {v : Backend} {s : Surroundings ε} {f : Forwarder ε} {made : Record ε}

theorem Watch.start (isOpen : f.gate.health (s.clock f.outside) = none) : Watch v s f [] where
  heeds before after visit xs split := by
    have length := congrArg List.length split
    rw [List.length_append, List.length_cons] at length
    exact absurd length (by rw [List.length_nil]; omega)
  spaced := .nil
  past _ among := absurd among List.not_mem_nil
  tells now from' _ message := by
    constructor
    · intro closed
      obtain ⟨ends, closure, within⟩ := health_eq_some.mp closed
      rw [health_eq_some.mpr ⟨ends, closure, Nat.lt_of_le_of_lt from' within⟩] at isOpen
      cases isOpen
    · rintro ⟨x, among, -⟩
      exact absurd among List.not_mem_nil

theorem Watch.wait (watch : Watch v s f made) {e : ε} (later : s.clock f.outside ≤ s.clock e) :
    Watch v s (f.within e) made where
  heeds := watch.heeds
  spaced := watch.spaced
  past x among := Nat.le_trans (watch.past x among) later
  tells := watch.tells.later later

theorem Record.exchanges_snoc (made : Record ε) (visit : Purger.Visit (Forwarder ε))
    (xs : List Exchange) :
    Record.exchanges (made ++ [(visit, xs)]) = made.exchanges ++ xs := by
  rw [exchanges, List.flatMap_append, List.flatMap_singleton]
  rfl

theorem InterruptedAt.split {kind : Kind} {batch : List Invalidation} {xs : List Exchange}
    {settled : Nat} (interrupted : InterruptedAt v kind batch xs settled) {x : Exchange}
    {closure : Closure} (among : x ∈ xs) (asked : x.closure? = some closure) :
    ∃ others, xs = others ++ [x] ∧ ∀ y ∈ others, y.closure? = none := by
  obtain ⟨-, -, others, last, rfl, calm, -⟩ := interrupted
  rcases List.mem_append.mp among with before | same
  · rw [calm x before] at asked
    cases asked
  · rw [List.mem_singleton.mp same]
    exact ⟨others, rfl, calm⟩

section Visit
variable {visit : Purger.Visit (Forwarder ε)} {xs : List Exchange}
  (treated : Treated v s visit xs) (watch : Watch v s visit.before made)
  (told : s.clock visit.before.outside < Gate.lastInstant)
include treated watch told

theorem Watch.heedsNext : Heeds v s made.exchanges visit xs where
  done := treated.done
  trades := treated.trades
  listed := treated.listed
  refused message suspended := by
    have closed := (watch.tells _ (Nat.le_refl _) told message).mpr suspended
    obtain ⟨none, -, failed⟩ := treated.closed message closed
    exact ⟨none, failed⟩
  admitted free := by
    apply treated.passed
    cases health : visit.before.gate.health (s.clock visit.before.outside) with
    | none => rfl
    | some message =>
        exact absurd ((watch.tells _ (Nat.le_refl _) told message).mp health) (free message)
  interrupted x among message ends suspends :=
    (treated.fault x among _ (Exchange.closure?_eq_some.mpr suspends)).2

/-- If anything was exchanged in a visit, then every suspension before it was over. -/
theorem Watch.over {y : Exchange} (exchanged : y ∈ xs) {x : Exchange} (before : x ∈ made.exchanges)
    {message : String} {ends : Nat} (suspends : x.Suspends message ends) :
    ends ≤ s.clock visit.before.outside := by
  apply Nat.le_of_not_lt
  intro within
  have suspended : SuspendedAt made.exchanges (s.clock visit.before.outside) message :=
    ⟨x, before, ends, suspends, watch.past x before, within⟩
  have closed := (watch.tells _ (Nat.le_refl _) told message).mpr suspended
  rw [(treated.closed message closed).1] at exchanged
  exact absurd exchanged List.not_mem_nil

theorem Watch.heedsAll (before after : Record ε) (visit' : Purger.Visit (Forwarder ε))
    (xs' : List Exchange) (split : made ++ [(visit, xs)] = before ++ (visit', xs') :: after) :
    Heeds v s before.exchanges visit' xs' := by
  rcases List.eq_nil_or_concat after with rfl | ⟨init, last, rfl⟩
  · obtain ⟨rfl, same⟩ := List.append_inj' split rfl
    obtain ⟨rfl, rfl⟩ := Prod.mk.inj (List.cons.inj same).1
    exact watch.heedsNext treated told
  · rw [List.concat_eq_append, ← List.cons_append, ← List.append_assoc] at split
    exact watch.heeds before init visit' xs' (List.append_inj' split rfl).1

/-- A visit without a fault leaves the gate as it was. One with a fault closes it anew, and that is
all there is to tell, since whatever suspended the service before was over. -/
theorem Watch.tellsNext (forward : s.RunsForward) :
    Spaced xs ∧ Tells (visit.after (purger s)).gate (s.clock (visit.after (purger s)).outside)
      (made.exchanges ++ xs) := by
  obtain ⟨ahead, times⟩ := forward.trades treated.trades
  by_cases calm : ∀ x ∈ xs, x.closure? = none
  · have own := Spaced.append_calm calm .nil
    rw [List.append_nil] at own
    rw [treated.calm calm]
    exact ⟨own, (watch.tells.later ahead).append_calm calm⟩
  · obtain ⟨x, among, closure, asked⟩ : ∃ x ∈ xs, ∃ closure, x.closure? = some closure := by
      simpa [Option.ne_none_iff_exists'] using calm
    obtain ⟨closed, settled, interrupted, -⟩ := treated.fault x among closure asked
    obtain ⟨others, rfl, quiet⟩ := interrupted.split among asked
    refine ⟨Spaced.append_calm quiet (List.pairwise_singleton _ _), ?_⟩
    rw [closed, ← List.append_assoc]
    refine tells_upTo asked (times x among).2 fun y earlier message ends suspends => ?_
    rcases List.mem_append.mp earlier with former | own
    · exact Nat.le_trans (watch.over treated told among former suspends) ahead
    · exact absurd suspends (not_suspends (quiet y own) message ends)

theorem Watch.next (forward : s.RunsForward) :
    Watch v s (visit.after (purger s)) (made ++ [(visit, xs)]) := by
  obtain ⟨ahead, times⟩ := forward.trades treated.trades
  obtain ⟨own, tells⟩ := watch.tellsNext treated told forward
  have split := Record.exchanges_snoc made visit xs
  refine ⟨watch.heedsAll treated told, ?_, fun x among => ?_, split ▸ tells⟩
  · rw [split]
    refine List.pairwise_append.mpr ⟨watch.spaced, own, ?_⟩
    intro x before y exchanged message ends suspends
    exact Nat.le_trans (watch.over treated told exchanged before suspends) (times y exchanged).1
  · rw [split] at among
    rcases List.mem_append.mp among with before | now
    · exact Nat.le_trans (watch.past x before) ahead
    · exact (times x now).2

end Visit
end Watch

/-- Some visits were made, one after the other, and time passed between them. -/
inductive Visited (s : Surroundings ε) (f : Forwarder ε) :
    List (Purger.Visit (Forwarder ε)) → Forwarder ε → Prop where
  | start : Visited s f [] f
  | wait {visits : List (Purger.Visit (Forwarder ε))} {f' : Forwarder ε}
      (run : Visited s f visits f') (e : ε) (later : s.clock f'.outside ≤ s.clock e) :
      Visited s f visits (f'.within e)
  | visit {visits : List (Purger.Visit (Forwarder ε))} (visit : Purger.Visit (Forwarder ε))
      (run : Visited s f visits visit.before) (supported : visit.kind ∈ (purger s).supported) :
      Visited s f (visits ++ [visit]) (visit.after (purger s))

/-- Every visit of a run finds the backend that was chosen before it. -/
theorem Visited.chosen {s : Surroundings ε} {f f' : Forwarder ε} {v : Backend}
    {visits : List (Purger.Visit (Forwarder ε))} (run : Visited s f visits f')
    (chosen : f.backend = some v) : f'.backend = some v ∧
      ∀ visit ∈ visits, (visit.answer (purger s)).2 = .done := by
  induction run with
  | start => exact ⟨chosen, fun _ among => absurd among List.not_mem_nil⟩
  | wait _ _ _ ih => exact ih
  | visit visit _ supported ih =>
      obtain ⟨xs, treated⟩ := visit_treated s visit supported ih.1
      refine ⟨treated.backend.trans ih.1, fun other among => ?_⟩
      rcases List.mem_append.mp among with before | last
      · exact ih.2 other before
      · rw [List.mem_singleton.mp last]
        exact treated.done

/-- What a run of visits preserves. -/
theorem Visited.watch {s : Surroundings ε} (forward : s.RunsForward) {f f' : Forwarder ε}
    {v : Backend} (chosen : f.backend = some v)
    (isOpen : f.gate.health (s.clock f.outside) = none)
    {visits : List (Purger.Visit (Forwarder ε))} (run : Visited s f visits f')
    (told : s.clock f'.outside < Gate.lastInstant) :
    ∃ made : Record ε, made.map (·.1) = visits ∧ Watch v s f' made := by
  induction run with
  | start => exact ⟨[], rfl, .start isOpen⟩
  | wait _ e later ih =>
      obtain ⟨made, visits, watch⟩ := ih (Nat.lt_of_le_of_lt later told)
      exact ⟨made, visits, watch.wait later⟩
  | visit visit run supported ih =>
      obtain ⟨xs, treated⟩ := visit_treated s visit supported (run.chosen chosen).1
      have before := Nat.lt_of_le_of_lt (forward.trades treated.trades).1 told
      obtain ⟨made, visits, watch⟩ := ih before
      refine ⟨made ++ [(visit, xs)], ?_, watch.next treated before forward⟩
      rw [List.map_append, visits]
      rfl

end CachePurge.Vendor
