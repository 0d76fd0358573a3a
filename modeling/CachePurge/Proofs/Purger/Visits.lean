import CachePurge.Proofs.Purger.Routing

/-!
The visits of a dispatch that may break off. The kinds that occur are visited one after the other,
and a handler that breaks off is the last one. What all visits add to a view of the state, one after
the other, is what the dispatch adds to it.
-/

namespace CachePurge.Purger

variable {σ : Type}

/-- Those of some kinds that occur in a list. -/
def occurring (kinds : List Kind) (invs : List Invalidation) : List Kind :=
  kinds.filter fun kind => !(Invalidation.ofKind kind invs).isEmpty

/-- Some kinds were dispatched from a state, after the fault `first` if there was one: these were
the visits, the last of which broke off if any did. -/
structure Visits (p : Purger σ) (kinds : List Kind) (first : Option Fault)
    (invs : List Invalidation) (st : σ) (visits : List (Visit σ))
    (run : (List Invalidation × Ending) × σ) : Prop where
  chained : visits.map (·.before) ++ [run.2] = st :: visits.map (·.after p)
  batches : ∀ visit ∈ visits,
    visit.batch = Invalidation.ofKind visit.kind invs ∧ visit.batch ≠ []
  ended : (visits.map (·.kind) = occurring kinds invs ∧ (∀ visit ∈ visits, visit.Returned p) ∧
      run.1.2 = endingOf (first.or (visits.findSome? (·.fault? p)))) ∨
    ∃ front last later panic, visits = front ++ [last] ∧
      occurring kinds invs = front.map (·.kind) ++ last.kind :: later ∧
      (∀ visit ∈ front, visit.Returned p) ∧ (last.answer p).2 = .panicked panic ∧
      run.1.2 = .panicked panic

section Step
variable {p : Purger σ} {kind : Kind} {rest : List Kind} {first : Option Fault}
  {invs : List Invalidation} {st : σ} {visits : List (Visit σ)}
  {run : (List Invalidation × Ending) × σ}

theorem occurring_cons_of_nil (none : Invalidation.ofKind kind invs = []) :
    occurring (kind :: rest) invs = occurring rest invs :=
  List.filter_cons_of_neg (by simp [none])

theorem occurring_cons_of_ne_nil (some_ : Invalidation.ofKind kind invs ≠ []) :
    occurring (kind :: rest) invs = kind :: occurring rest invs :=
  List.filter_cons_of_pos (by simpa using some_)

theorem occurring_advanceKind (fresh : kind ∉ rest) (states : List State) :
    occurring rest (Invalidation.advanceKind kind invs states) = occurring rest invs := by
  refine List.filter_congr fun other among => ?_
  rw [Invalidation.ofKind_advanceKind_of_ne invs states]
  rintro rfl
  exact fresh among

theorem Visits.stop (p : Purger σ) (first : Option Fault) (invs : List Invalidation) (st : σ) :
    Visits p [] first invs st [] ((invs.map Invalidation.fail, endingOf first), st) where
  chained := rfl
  batches := nofun
  ended := .inl ⟨rfl, nofun, congrArg endingOf Option.or_none.symm⟩

theorem Visits.skip (none : Invalidation.ofKind kind invs = [])
    (later : Visits p rest first invs st visits run) :
    Visits p (kind :: rest) first invs st visits run := by
  obtain ⟨chained, batches, ended⟩ := later
  refine ⟨chained, batches, ?_⟩
  rwa [occurring_cons_of_nil none]

theorem Visits.breaks (some_ : Invalidation.ofKind kind invs ≠ []) {panic : Panic}
    (broken : ((visitOf kind invs st).answer p).2 = .panicked panic)
    (left : List Invalidation) :
    Visits p (kind :: rest) first invs st [visitOf kind invs st]
      ((left, .panicked panic), (visitOf kind invs st).after p) where
  chained := rfl
  batches := List.forall_mem_singleton.mpr ⟨rfl, some_⟩
  ended := .inr ⟨[], visitOf kind invs st, occurring rest invs, panic, rfl,
    occurring_cons_of_ne_nil some_, nofun, broken, rfl⟩

/-- Only kinds that were to be dispatched are visited. -/
theorem Visits.mem_rest (routed : Visits p rest first invs st visits run) :
    ∀ visit ∈ visits, visit.kind ∈ rest := by
  have subset : ∀ kind ∈ occurring rest invs, kind ∈ rest := fun _ => List.mem_of_mem_filter
  intro visit inside
  apply subset
  rcases routed.ended with ⟨kinds, -⟩ | ⟨front, last, others, panic, rfl, kinds, -⟩
  · exact kinds ▸ List.mem_map_of_mem inside
  · rw [kinds]
    cases List.mem_append.mp inside with
    | inl before => exact List.mem_append_left _ (List.mem_map_of_mem before)
    | inr now =>
        rw [List.mem_singleton.mp now]
        exact List.mem_append_right _ List.mem_cons_self

/-- The kinds after a visit find their own invalidations as they were. -/
theorem Visits.visit (fresh : kind ∉ rest) (some_ : Invalidation.ofKind kind invs ≠ [])
    (returned : (visitOf kind invs st).Returned p)
    (later : Visits p rest (first.or ((visitOf kind invs st).fault? p))
      (Invalidation.advanceKind kind invs ((visitOf kind invs st).answer p).1)
      ((visitOf kind invs st).after p) visits run) :
    Visits p (kind :: rest) first invs st (visitOf kind invs st :: visits) run := by
  have among := later.mem_rest
  obtain ⟨chained, batches, ended⟩ := later
  have own : (visitOf kind invs st).kind = kind := rfl
  rw [occurring_advanceKind fresh] at ended
  refine ⟨?_, List.forall_mem_cons.mpr ⟨⟨rfl, some_⟩, fun visit inside => ?_⟩, ?_⟩
  · rw [List.map_cons, List.map_cons, List.cons_append, chained]
    rfl
  · have differ : visit.kind ≠ kind := fun same => fresh (same ▸ among visit inside)
    have batch := batches visit inside
    rwa [Invalidation.ofKind_advanceKind_of_ne invs _ differ] at batch
  · rw [occurring_cons_of_ne_nil some_]
    rcases ended with ⟨kinds, all, ending⟩ |
      ⟨front, last, others, panic, rfl, kinds, all, broken, ending⟩
    · refine .inl ⟨by rw [List.map_cons, own, kinds], List.forall_mem_cons.mpr ⟨returned, all⟩, ?_⟩
      rw [ending, List.findSome?_cons, Option.or_assoc]
      cases (visitOf kind invs st).fault? p <;> rfl
    · refine .inr ⟨visitOf kind invs st :: front, last, others, panic, rfl, ?_,
        List.forall_mem_cons.mpr ⟨returned, all⟩, broken, ending⟩
      rw [kinds, List.map_cons, own, List.cons_append]

end Step

/-- How a dispatch of some kinds goes, whether its handlers return or not, and the record that a
recording purger keeps of it. -/
theorem dispatchKinds_visits (p : Purger σ) {kinds : List Kind} (distinct : kinds.Nodup)
    (invs : List Invalidation) (first : Option Fault) (st : σ) :
    ∃ visits, Visits p kinds first invs st visits (p.dispatchKinds kinds first invs st) ∧
      ∀ before, p.recording.dispatchKinds kinds first invs (st, before) =
        ((p.dispatchKinds kinds first invs st).1,
          ((p.dispatchKinds kinds first invs st).2, before ++ visits)) := by
  induction kinds generalizing invs first st with
  | nil =>
      refine ⟨[], ?_, fun before => ?_⟩
      · cases first <;> exact Visits.stop p _ invs st
      · rw [List.append_nil]
        rfl
  | cons kind rest ih =>
      obtain ⟨fresh, distinct⟩ := List.nodup_cons.mp distinct
      by_cases none : Invalidation.ofKind kind invs = []
      · obtain ⟨visits, routed, recorded⟩ := ih distinct invs first st
        rw [dispatchKinds_skip p rest none]
        refine ⟨visits, routed.skip none, fun before => ?_⟩
        rw [dispatchKinds_skip p.recording rest none, recorded]
      · cases ended : ((visitOf kind invs st).answer p).2 with
        | panicked panic =>
            have handled : p.handle kind (Invalidation.ofKind kind invs) st =
                ((((visitOf kind invs st).answer p).1, .panicked panic),
                  (visitOf kind invs st).after p) := by
              rw [← ended]
              rfl
            have recorded (before : List (Visit σ)) :
                p.recording.handle kind (Invalidation.ofKind kind invs) (st, before) =
                  ((((visitOf kind invs st).answer p).1, .panicked panic),
                    ((visitOf kind invs st).after p, before ++ [visitOf kind invs st])) := by
              rw [recording_handle, handled]
              rfl
            rw [dispatchKinds_of_panicked none handled]
            refine ⟨_, .breaks none ended _, fun before => ?_⟩
            rw [dispatchKinds_of_panicked none (recorded before)]
        | done | failed fault =>
            have returned : (visitOf kind invs st).Returned p := by
              intro panic
              rw [ended]
              nofun
            obtain ⟨visits, routed, recorded⟩ := ih distinct
              (Invalidation.advanceKind kind invs ((visitOf kind invs st).answer p).1)
              (first.or ((visitOf kind invs st).fault? p)) ((visitOf kind invs st).after p)
            rw [dispatchKinds_visit p rest none returned]
            refine ⟨visitOf kind invs st :: visits, routed.visit fresh none returned,
              fun before => ?_⟩
            have recorded' : (visitOf kind invs (st, before)).Returned p.recording := returned
            rw [dispatchKinds_visit p.recording rest none recorded', List.append_cons]
            exact recorded (before ++ [visitOf kind invs st])

theorem dispatch_visits (p : Purger σ) {invs : List Invalidation}
    (supported : ∀ inv ∈ invs, inv.kind ∈ p.supported) (st : σ) :
    ∃ visits, Visits p Kind.all none invs st visits (p.dispatch invs st) ∧
      p.recording.dispatch invs (st, []) =
        ((p.dispatch invs st).1, ((p.dispatch invs st).2, visits)) := by
  obtain ⟨visits, routed, recorded⟩ := dispatchKinds_visits p Kind.nodup_all invs none st
  rw [dispatch_of_supported p supported, dispatch_of_supported p.recording supported]
  exact ⟨visits, routed, recorded []⟩

section Loud
variable {p : Purger σ} {invs : List Invalidation} {st : σ} {visits : List (Visit σ)}
  {run : (List Invalidation × Ending) × σ} {loud : Invalidation → Bool} {panic : Panic}
  (routed : Visits p Kind.all none invs st visits run)
  (answers : ∀ visit ∈ visits,
    (visit.answer p).2 = if visit.batch.any loud then .panicked panic else .done)
include routed

theorem Visits.mem_batch {visit : Visit σ} (inside : visit ∈ visits) {inv : Invalidation} :
    inv ∈ visit.batch ↔ inv ∈ invs ∧ inv.kind = visit.kind := by
  rw [(routed.batches visit inside).1, Invalidation.ofKind, List.mem_filter, decide_eq_true_eq]

include answers

/-- If there are none of these, then every kind that occurs is visited. -/
theorem Visits.of_quiet (quiet : ∀ inv ∈ invs, loud inv = false) :
    run.1.2 = .done ∧ visits.map (·.kind) = occurring Kind.all invs := by
  have done : ∀ visit ∈ visits, (visit.answer p).2 = .done := by
    intro visit inside
    rw [answers visit inside, if_neg]
    rw [List.any_eq_true]
    rintro ⟨inv, among, breaks⟩
    rw [quiet inv ((routed.mem_batch inside).mp among).1] at breaks
    cases breaks
  rcases routed.ended with ⟨kinds, -, ending⟩ | ⟨front, last, later, panic, rfl, -, -, broken, -⟩
  · exact ⟨ending.trans (endingOf_of_done done), kinds⟩
  · rw [done last (List.mem_append_right front List.mem_cons_self)] at broken
    cases broken

/-- If there is one of these, then the first kind that has any is the last one to be visited. -/
theorem Visits.of_loud {inv : Invalidation} (among : inv ∈ invs) (breaks : loud inv = true) :
    run.1.2 = .panicked panic ∧ ∃ front last later, visits = front ++ [last] ∧
      occurring Kind.all invs = front.map (·.kind) ++ last.kind :: later ∧
      (∀ visit ∈ front, visit.batch.any loud = false) ∧ last.batch.any loud = true := by
  rcases routed.ended with ⟨kinds, returned, -⟩ |
    ⟨front, last, later, panic', rfl, kinds, returned, broken, ending⟩
  · have occurs : inv.kind ∈ occurring Kind.all invs := by
      have own : inv ∈ Invalidation.ofKind inv.kind invs :=
        List.mem_filter.mpr ⟨among, decide_eq_true rfl⟩
      exact List.mem_filter.mpr ⟨inv.kind.mem_all, by simpa using List.ne_nil_of_mem own⟩
    rw [← kinds] at occurs
    obtain ⟨visit, inside, same⟩ := List.mem_map.mp occurs
    have own := (routed.mem_batch inside).mpr ⟨among, same.symm⟩
    have answer := answers visit inside
    rw [if_pos (List.any_eq_true.mpr ⟨inv, own, breaks⟩)] at answer
    exact absurd answer (returned visit inside panic)
  · obtain ⟨before, now⟩ := List.forall_mem_append.mp answers
    have answer := now last List.mem_cons_self
    cases loudest : last.batch.any loud with
    | false =>
        rw [broken, loudest] at answer
        cases answer
    | true =>
        rw [broken, loudest, if_pos rfl] at answer
        obtain rfl := Ending.panicked.inj answer
        refine ⟨ending, front, last, later, rfl, kinds, fun visit inside => ?_, loudest⟩
        rw [← Bool.not_eq_true]
        intro loud
        have answer := before visit inside
        rw [if_pos loud] at answer
        exact returned visit inside _ answer

end Loud

section Told
variable {ν : Type} {p : Purger σ} {view : σ → List ν}

/-- What a visit added to a view that only grows. -/
def Visit.told (p : Purger σ) (view : σ → List ν) (visit : Visit σ) : List ν :=
  (view (visit.after p)).drop (view visit.before).length

theorem Visit.told_eq {visit : Visit σ} {part : List ν}
    (grown : view (visit.after p) = view visit.before ++ part) : visit.told p view = part := by
  rw [told, grown, List.drop_left]

/-- Visits that lead on from each other add up. -/
theorem flatMap_told {visits : List (Visit σ)} {st final : σ}
    (chained : visits.map (·.before) ++ [final] = st :: visits.map (·.after p))
    (grown : ∀ visit ∈ visits, ∃ part, view (visit.after p) = view visit.before ++ part) :
    view final = view st ++ visits.flatMap (·.told p view) := by
  induction visits generalizing st with
  | nil =>
      rw [(List.cons.inj chained).1, List.flatMap_nil, List.append_nil]
  | cons visit rest ih =>
      obtain ⟨own, later⟩ := List.cons.inj chained
      obtain ⟨⟨part, first⟩, others⟩ := List.forall_mem_cons.mp grown
      rw [ih later others, List.flatMap_cons, Visit.told_eq first, first, ← own, List.append_assoc]

/-- These were the visits of a dispatch, and together they added what it added to a view. -/
structure Recorded (p : Purger σ) (view : σ → List ν) (invs : List Invalidation) (st : σ)
    (visits : List (Visit σ)) : Prop where
  recorded : p.recording.dispatch invs (st, []) =
    ((p.dispatch invs st).1, ((p.dispatch invs st).2, visits))
  chained : visits.map (·.before) ++ [(p.dispatch invs st).2] = st :: visits.map (·.after p)
  batches : ∀ visit ∈ visits, visit.batch = Invalidation.ofKind visit.kind invs
  told : view (p.dispatch invs st).2 = view st ++ visits.flatMap (·.told p view)

theorem Visits.record {invs : List Invalidation} {st : σ} {visits : List (Visit σ)}
    (routed : Visits p Kind.all none invs st visits (p.dispatch invs st))
    (recorded : p.recording.dispatch invs (st, []) =
      ((p.dispatch invs st).1, ((p.dispatch invs st).2, visits)))
    (grown : ∀ visit ∈ visits, ∃ part, view (visit.after p) = view visit.before ++ part) :
    Recorded p view invs st visits where
  recorded := recorded
  chained := routed.chained
  batches visit inside := (routed.batches visit inside).1
  told := flatMap_told routed.chained grown

/-- A single visit finds the purger as it was, and adds all that is added. -/
theorem Recorded.single {invs : List Invalidation} {st : σ} {visit : Visit σ}
    (recorded : Recorded p view invs st [visit]) :
    visit = visitOf visit.kind invs st ∧
      view (p.dispatch invs st).2 = view st ++ visit.told p view := by
  have before : visit.before = st := (List.cons.inj recorded.chained).1
  have batch := recorded.batches visit List.mem_cons_self
  have told := recorded.told
  rw [List.flatMap_singleton] at told
  refine ⟨?_, told⟩
  rw [visitOf, ← batch, ← before]

end Told
end CachePurge.Purger
