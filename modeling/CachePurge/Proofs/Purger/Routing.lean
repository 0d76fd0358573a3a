import CachePurge.Proofs.Invalidation.Advance
import CachePurge.Proofs.Ledger
import CachePurge.Purger.Scripted

/-!
How a dispatch of a mixed list goes about its handlers. A purger that records the visits to its
handlers does all else as before, and its record tells how each invalidation came to its state:
every kind that occurs is visited once, with all invalidations of that kind.
-/

namespace CachePurge

/-- What becomes of a state when nobody is left to settle it. -/
def State.orFailed (s : State) : State := if s.isTerminal then s else .failed

theorem State.advance_failed_eq (s : State) : s.advance .failed = s.orFailed := by
  cases s <;> rfl

namespace Invalidation

theorem map_kind_of_still {invs after : List Invalidation}
    (still : List.Forall₂ IsStill invs after) : after.map (·.kind) = invs.map (·.kind) := by
  induction still with
  | nil => rfl
  | cons same _ ih => rw [List.map_cons, List.map_cons, ih, same]

theorem still_at {invs after : List Invalidation} (still : List.Forall₂ IsStill invs after)
    {i : Nat} {inv : Invalidation} (found : invs[i]? = some inv) :
    ∃ inv', after[i]? = some inv' ∧ inv.IsStill inv' := by
  induction still generalizing i with
  | nil => cases found
  | cons same _ ih =>
      cases i with
      | zero =>
          obtain rfl := Option.some.inj found
          exact ⟨_, rfl, same⟩
      | succ i => exact ih found

theorem IsStill.fail_eq {inv inv' : Invalidation} (same : inv.IsStill inv') :
    inv'.fail = { inv with state := inv'.state.orFailed } := by
  rw [fail, advance, State.advance_failed_eq]
  rw [IsStill] at same
  generalize inv'.state = state at same ⊢
  rw [same]

section AdvanceEach
variable {counts : Invalidation → Bool}

theorem getElem?_advanceEach_of_not {invs : List Invalidation} {i : Nat} {inv : Invalidation}
    (found : invs[i]? = some inv) (skipped : counts inv = false) (states : List State) :
    (advanceEach counts invs states)[i]? = some inv := by
  induction invs generalizing i states with
  | nil => cases found
  | cons first rest ih =>
      cases i with
      | zero =>
          obtain rfl := Option.some.inj found
          rw [advanceEach_cons_of_not skipped, List.getElem?_cons_zero]
      | succ i =>
          rw [List.getElem?_cons_succ] at found
          cases h : counts first with
          | false => rw [advanceEach_cons_of_not h, List.getElem?_cons_succ, ih found]
          | true =>
              cases states with
              | nil => exact found
              | cons next states =>
                  simp only [advanceEach, h, if_true, List.getElem?_cons_succ, ih found]

/-- Those that count are moved on as they would be by themselves. -/
theorem getElem?_advanceEach {invs : List Invalidation} {i : Nat} {inv : Invalidation}
    (found : invs[i]? = some inv) (counted : counts inv = true) (states : List State) :
    (advanceEach counts invs states)[i]? =
      (advanceEach (fun _ => true) (invs.filter counts) states)[(invs.take i).countP counts]? := by
  induction invs generalizing i states with
  | nil => cases found
  | cons first rest ih =>
      cases i with
      | zero =>
          obtain rfl := Option.some.inj found
          cases states <;> simp [advanceEach, counted]
      | succ i =>
          rw [List.getElem?_cons_succ] at found
          have later := ih found
          cases h : counts first with
          | false => simp [advanceEach_cons_of_not h, h, later]
          | true =>
              cases states with
              | nil => simpa [advanceEach_nil, h] using later []
              | cons next states => simp [advanceEach, h, later]

end AdvanceEach

/-- The invalidations of a kind, in their order. -/
def ofKind (kind : Kind) (invs : List Invalidation) : List Invalidation :=
  invs.filter (·.kind = kind)

/-- How many of a kind stand before a place. -/
def placeOfKind (kind : Kind) (invs : List Invalidation) (i : Nat) : Nat :=
  (invs.take i).countP (·.kind = kind)

/-- Those of a kind are moved on. -/
def advanceKind (kind : Kind) (invs : List Invalidation) (states : List State) :
    List Invalidation :=
  advanceEach (·.kind = kind) invs states

section AdvanceKind
variable {kind : Kind} (invs : List Invalidation) (states : List State)

theorem advanceKind_still (kind : Kind) :
    List.Forall₂ IsStill invs (advanceKind kind invs states) :=
  advanceEach_still _ invs states

theorem placeOfKind_advanceKind (other : Kind) (i : Nat) :
    placeOfKind other (advanceKind kind invs states) i = placeOfKind other invs i := by
  have kinds := map_kind_of_still (advanceKind_still invs states kind)
  have counts := congrArg (fun kinds : List Kind => (kinds.take i).countP (· = other)) kinds
  simpa only [placeOfKind, ← List.map_take, List.countP_map, Function.comp_def] using counts

/-- Those of another kind stay in their places as they are. -/
theorem filter_zipIdx_advanceKind {other : Kind} (differ : other ≠ kind) (k : Nat) :
    ((advanceKind kind invs states).zipIdx k).filter (fun x => x.1.kind = other) =
      (invs.zipIdx k).filter fun x => x.1.kind = other := by
  rw [advanceKind]
  induction invs generalizing states k with
  | nil => rfl
  | cons inv rest ih =>
      by_cases now : inv.kind = kind
      · cases states with
        | nil => rfl
        | cons next states =>
            have skipped : inv.kind ≠ other := fun same => differ (same.symm.trans now)
            have skipped' : (inv.advance next).kind ≠ other := skipped
            simp only [advanceEach, now, decide_true, if_true, List.zipIdx_cons]
            rw [List.filter_cons_of_neg (by simpa using skipped'),
              List.filter_cons_of_neg (by simpa using skipped), ih]
      · rw [advanceEach_cons_of_not (decide_eq_false now), List.zipIdx_cons, List.zipIdx_cons,
          List.filter_cons, List.filter_cons, ih]

theorem map_fst_filter_zipIdx (kind : Kind) (invs : List Invalidation) :
    (invs.zipIdx.filter fun x => x.1.kind = kind).map (·.1) = ofKind kind invs := by
  conv_rhs => rw [← List.zipIdx_map_fst 0 invs, ofKind, List.filter_map]
  rfl

theorem ofKind_advanceKind_of_ne {other : Kind} (differ : other ≠ kind) :
    ofKind other (advanceKind kind invs states) = ofKind other invs := by
  rw [← map_fst_filter_zipIdx, filter_zipIdx_advanceKind invs states differ, map_fst_filter_zipIdx]

variable {invs} {i : Nat} {inv : Invalidation} (found : invs[i]? = some inv)
include found

theorem getElem?_advanceKind_of_ne (differ : inv.kind ≠ kind) :
    (advanceKind kind invs states)[i]? = some inv :=
  getElem?_advanceEach_of_not found (decide_eq_false differ) states

theorem getElem?_advanceKind (own : inv.kind = kind) :
    (advanceKind kind invs states)[i]? =
      (advanceEach (fun _ => true) (ofKind kind invs) states)[placeOfKind kind invs i]? :=
  getElem?_advanceEach found (decide_eq_true own) states

theorem getElem?_ofKind : (ofKind inv.kind invs)[placeOfKind inv.kind invs i]? = some inv := by
  have own := getElem?_advanceKind [] found rfl
  rw [advanceEach_nil, advanceKind, advanceEach_nil, found] at own
  exact own.symm

end AdvanceKind
end Invalidation

namespace Purger

/-- A visit to a handler: what it was called with, and the purger's state at that time. -/
structure Visit (σ : Type) where
  kind : Kind
  batch : List Invalidation
  before : σ

variable {σ : Type}

namespace Visit

def answer (p : Purger σ) (visit : Visit σ) : List State × Ending :=
  (p.handle visit.kind visit.batch visit.before).1

def after (p : Purger σ) (visit : Visit σ) : σ :=
  (p.handle visit.kind visit.batch visit.before).2

/-- The batch as the handler left it. -/
def left (p : Purger σ) (visit : Visit σ) : List Invalidation :=
  Invalidation.advanceEach (fun _ => true) visit.batch (visit.answer p).1

def fault? (p : Purger σ) (visit : Visit σ) : Option Fault :=
  match (visit.answer p).2 with
  | .failed fault => some fault
  | .done | .panicked _ => none

def Returned (p : Purger σ) (visit : Visit σ) : Prop :=
  ∀ panic, (visit.answer p).2 ≠ .panicked panic

end Visit

/-- The same purger, which keeps a record of the visits to its handlers besides. -/
def recording (p : Purger σ) : Purger (σ × List (Visit σ)) where
  name := p.name
  supported := p.supported
  handle kind batch := fun (st, visits) =>
    let (answer, st') := p.handle kind batch st
    (answer, (st', visits ++ [⟨kind, batch, st⟩]))

theorem recording_handle (p : Purger σ) (kind : Kind) (batch : List Invalidation) (st : σ)
    (visits : List (Visit σ)) :
    p.recording.handle kind batch (st, visits) =
      ((p.handle kind batch st).1,
        ((p.handle kind batch st).2, visits ++ [⟨kind, batch, st⟩])) := rfl

theorem call_after (p : Purger σ) (kind : Kind) (invs : List Invalidation) (st : σ) :
    (p.call kind invs st).2 = (p.handle kind invs st).2 := rfl

/-- No call of a handler breaks off. -/
def Returns (p : Purger σ) (kind : Kind) : Prop :=
  ∀ batch st panic, (p.handle kind batch st).1.2 ≠ .panicked panic

/-- How a call ends whose first fault is known. -/
def endingOf : Option Fault → Ending
  | some fault => .failed fault
  | none => .done

/-- Visits that were all done leave no fault to report. -/
theorem endingOf_of_done {p : Purger σ} {visits : List (Visit σ)}
    (done : ∀ visit ∈ visits, (visit.answer p).2 = .done) :
    endingOf (visits.findSome? (·.fault? p)) = .done := by
  have none : visits.findSome? (·.fault? p) = none := by
    rw [List.findSome?_eq_none_iff]
    intro visit among
    rw [Visit.fault?, done visit among]
  rw [none]
  rfl

/-- An invalidation in its place is as the visit of its kind left it, and failed if that left it
unsettled. -/
def SettledAt (p : Purger σ) (visits : List (Visit σ)) (invs final : List Invalidation) (i : Nat)
    (inv : Invalidation) : Prop :=
  ∃ visit ∈ visits, visit.kind = inv.kind ∧
    ∃ left, (visit.left p)[Invalidation.placeOfKind inv.kind invs i]? = some left ∧
      final[i]? = some { inv with state := left.state.orFailed }

/-- Some kinds were dispatched from a state, after the fault `first` if there was one: these were
the visits, and this came of them. -/
structure Routed (p : Purger σ) (kinds : List Kind) (first : Option Fault)
    (invs : List Invalidation) (st : σ) (visits : List (Visit σ))
    (run : (List Invalidation × Ending) × σ) : Prop where
  calls : visits.map (fun visit => (visit.kind, visit.batch)) =
    (kinds.filter fun kind => !(Invalidation.ofKind kind invs).isEmpty).map
      fun kind => (kind, Invalidation.ofKind kind invs)
  chained : visits.map (·.before) ++ [run.2] = st :: visits.map (·.after p)
  ending : run.1.2 = endingOf (first.or (visits.findSome? (·.fault? p)))
  length : run.1.1.length = invs.length
  settled : ∀ (i : Nat) (inv : Invalidation), invs[i]? = some inv → inv.kind ∈ kinds →
    SettledAt p visits invs run.1.1 i inv
  others : ∀ (i : Nat) (inv : Invalidation), invs[i]? = some inv → inv.kind ∉ kinds →
    run.1.1[i]? = some { inv with state := inv.state.orFailed }

section Step
variable {p : Purger σ} {kind : Kind} {rest : List Kind} {first : Option Fault}
  {invs : List Invalidation} {st : σ} {visits : List (Visit σ)}
  {run : (List Invalidation × Ending) × σ}

theorem Routed.stop (p : Purger σ) (first : Option Fault) (invs : List Invalidation) (st : σ) :
    Routed p [] first invs st [] ((invs.map Invalidation.fail, endingOf first), st) where
  calls := rfl
  chained := rfl
  ending := congrArg endingOf (Option.or_none).symm
  length := List.length_map _
  settled := nofun
  others := by
    intro i inv found _
    rw [List.getElem?_map, found, Option.map_some, Invalidation.fail, Invalidation.advance,
      State.advance_failed_eq]

theorem Routed.skip (none : Invalidation.ofKind kind invs = [])
    (later : Routed p rest first invs st visits run) :
    Routed p (kind :: rest) first invs st visits run := by
  obtain ⟨calls, chained, ending, length, settled, others⟩ := later
  have absent : ∀ (i : Nat) (inv : Invalidation), invs[i]? = some inv → inv.kind ≠ kind := by
    intro i inv found same
    have inside : inv ∈ Invalidation.ofKind kind invs :=
      List.mem_filter.mpr ⟨List.mem_of_getElem? found, decide_eq_true same⟩
    rw [none] at inside
    cases inside
  refine ⟨?_, chained, ending, length, fun i inv found among => ?_, fun i inv found outside => ?_⟩
  · rw [calls, List.filter_cons_of_neg]
    simp [none]
  · exact settled i inv found ((List.mem_cons.mp among).resolve_left (absent i inv found))
  · exact others i inv found fun among => outside (List.mem_cons_of_mem kind among)

/-- The kinds after a visit find their own invalidations as they were. -/
theorem Routed.visit (fresh : kind ∉ rest) (nonempty : Invalidation.ofKind kind invs ≠ [])
    {visit : Visit σ} (own : visit = ⟨kind, Invalidation.ofKind kind invs, st⟩)
    (later : Routed p rest (first.or (visit.fault? p))
      (Invalidation.advanceKind kind invs (visit.answer p).1) (visit.after p) visits run) :
    Routed p (kind :: rest) first invs st (visit :: visits) run := by
  obtain ⟨calls, chained, ending, length, settled, others⟩ := later
  have still := Invalidation.advanceKind_still invs (visit.answer p).1 kind
  have kept : ∀ other ∈ rest,
      Invalidation.ofKind other (Invalidation.advanceKind kind invs (visit.answer p).1) =
        Invalidation.ofKind other invs := by
    intro other among
    apply Invalidation.ofKind_advanceKind_of_ne
    rintro rfl
    exact fresh among
  refine ⟨?_, ?_, ?_, length.trans still.length_eq.symm, fun i inv found among => ?_,
    fun i inv found outside => ?_⟩
  · have again : (rest.filter fun other => !(Invalidation.ofKind other
        (Invalidation.advanceKind kind invs (visit.answer p).1)).isEmpty) =
          rest.filter fun other => !(Invalidation.ofKind other invs).isEmpty :=
      List.filter_congr fun other among => by rw [kept other among]
    rw [List.filter_cons_of_pos (by simpa using nonempty), List.map_cons, List.map_cons, calls,
      again, own]
    refine congrArg _ (List.map_congr_left fun other among => ?_)
    rw [own] at kept
    rw [kept other (List.mem_filter.mp among).1]
  · rw [List.map_cons, List.map_cons, List.cons_append, chained, own]
  · rw [ending, List.findSome?_cons, Option.or_assoc]
    cases visit.fault? p <;> rfl
  · by_cases now : inv.kind = kind
    · obtain ⟨moved, at_i, same⟩ := Invalidation.still_at still found
      have final := others i moved at_i (by rw [same]; exact now ▸ fresh)
      rw [Invalidation.getElem?_advanceKind _ found now] at at_i
      refine ⟨visit, List.mem_cons_self, by rw [own, now], moved, ?_, ?_⟩
      · rw [Visit.left, now, ← at_i, own]
      · rw [final, same]
    · have at_i := Invalidation.getElem?_advanceKind_of_ne (visit.answer p).1 found now
      obtain ⟨later, member, of_kind, left, at_place, final⟩ :=
        settled i inv at_i ((List.mem_cons.mp among).resolve_left now)
      rw [Invalidation.placeOfKind_advanceKind] at at_place
      exact ⟨later, List.mem_cons_of_mem visit member, of_kind, left, at_place, final⟩
  · have differ : inv.kind ≠ kind := fun same => outside (same ▸ List.mem_cons_self)
    exact others i inv (Invalidation.getElem?_advanceKind_of_ne _ found differ)
      fun among => outside (List.mem_cons_of_mem kind among)

end Step

/-- The visit to a handler in a dispatch of a list. -/
def visitOf (kind : Kind) (invs : List Invalidation) (st : σ) : Visit σ :=
  ⟨kind, Invalidation.ofKind kind invs, st⟩

theorem dispatchKinds_skip (p : Purger σ) {kind : Kind} (rest : List Kind)
    {invs : List Invalidation} (none : Invalidation.ofKind kind invs = [])
    (first : Option Fault) (st : σ) :
    p.dispatchKinds (kind :: rest) first invs st = p.dispatchKinds rest first invs st := by
  have empty : (invs.filter fun inv => inv.kind = kind).isEmpty = true := List.isEmpty_iff.mpr none
  simp only [dispatchKinds, empty, if_true]

theorem dispatchKinds_visit (p : Purger σ) {kind : Kind} (rest : List Kind)
    {invs : List Invalidation} (some_ : Invalidation.ofKind kind invs ≠ []) {st : σ}
    (returned : (visitOf kind invs st).Returned p) (first : Option Fault) :
    p.dispatchKinds (kind :: rest) first invs st =
      p.dispatchKinds rest (first.or ((visitOf kind invs st).fault? p))
        (Invalidation.advanceKind kind invs ((visitOf kind invs st).answer p).1)
        ((visitOf kind invs st).after p) := by
  have empty : (invs.filter fun inv => inv.kind = kind).isEmpty = false :=
    List.isEmpty_eq_false_iff.mpr some_
  have answer : (visitOf kind invs st).answer p =
      (p.handle kind (invs.filter fun inv => inv.kind = kind) st).1 := rfl
  have after : (visitOf kind invs st).after p =
      (p.handle kind (invs.filter fun inv => inv.kind = kind) st).2 := rfl
  simp only [dispatchKinds, empty, bind_apply, Bool.false_eq_true, if_false, Visit.fault?, answer,
    after]
  cases ended : (p.handle kind (invs.filter fun inv => inv.kind = kind) st).1.2 with
  | done => simp only [Option.or_none]; rfl
  | failed fault => cases first <;> rfl
  | panicked panic => exact absurd ended (returned panic)

section Handled
variable {p : Purger σ} {kind : Kind} {invs : List Invalidation} {states : List State} {st st' : σ}

/-- After a handler that is done the others go on with what it left. -/
theorem dispatchKinds_of_done (some_ : Invalidation.ofKind kind invs ≠ [])
    (handled : p.handle kind (Invalidation.ofKind kind invs) st = ((states, .done), st'))
    (rest : List Kind) (first : Option Fault) :
    p.dispatchKinds (kind :: rest) first invs st =
      p.dispatchKinds rest first (Invalidation.advanceKind kind invs states) st' := by
  have empty : (Invalidation.ofKind kind invs).isEmpty = false :=
    List.isEmpty_eq_false_iff.mpr some_
  rw [Invalidation.ofKind] at empty handled
  simp only [dispatchKinds, empty, bind_apply, Bool.false_eq_true, if_false, handled]
  rfl

/-- After a handler that breaks off there are no others. -/
theorem dispatchKinds_of_panicked {panic : Panic} (some_ : Invalidation.ofKind kind invs ≠ [])
    (handled : p.handle kind (Invalidation.ofKind kind invs) st = ((states, .panicked panic), st'))
    (rest : List Kind) (first : Option Fault) :
    p.dispatchKinds (kind :: rest) first invs st =
      ((Invalidation.advanceKind kind invs states, .panicked panic), st') := by
  have empty : (Invalidation.ofKind kind invs).isEmpty = false :=
    List.isEmpty_eq_false_iff.mpr some_
  rw [Invalidation.ofKind] at empty handled
  simp only [dispatchKinds, empty, bind_apply, Bool.false_eq_true, if_false, handled]
  rfl

end Handled

/-- What a dispatch of some kinds comes to, and the record that a recording purger keeps of it. -/
theorem dispatchKinds_routed (p : Purger σ) {kinds : List Kind} (distinct : kinds.Nodup)
    {invs : List Invalidation} (returns : ∀ inv ∈ invs, p.Returns inv.kind)
    (first : Option Fault) (st : σ) :
    ∃ visits, Routed p kinds first invs st visits (p.dispatchKinds kinds first invs st) ∧
      ∀ before, p.recording.dispatchKinds kinds first invs (st, before) =
        ((p.dispatchKinds kinds first invs st).1,
          ((p.dispatchKinds kinds first invs st).2, before ++ visits)) := by
  induction kinds generalizing invs first st with
  | nil =>
      refine ⟨[], ?_, fun before => ?_⟩
      · cases first <;> exact Routed.stop p _ invs st
      · rw [List.append_nil]
        rfl
  | cons kind rest ih =>
      obtain ⟨fresh, distinct⟩ := List.nodup_cons.mp distinct
      by_cases none : Invalidation.ofKind kind invs = []
      · obtain ⟨visits, routed, recorded⟩ := ih distinct returns first st
        rw [dispatchKinds_skip p rest none]
        refine ⟨visits, routed.skip none, fun before => ?_⟩
        rw [dispatchKinds_skip p.recording rest none, recorded]
      · obtain ⟨inv, inside⟩ := List.exists_mem_of_ne_nil _ none
        obtain ⟨among, own⟩ := List.mem_filter.mp inside
        have returned : p.Returns kind := of_decide_eq_true own ▸ returns inv among
        have recordedReturns : p.recording.Returns kind := fun batch st => returned batch st.1
        have returns' : ∀ inv ∈ Invalidation.advanceKind kind invs
            ((visitOf kind invs st).answer p).1, p.Returns inv.kind := by
          intro moved among
          obtain ⟨inv, before, same⟩ := Invalidation.still_of_mem
            (Invalidation.advanceKind_still invs _ kind) among
          rw [same]
          exact returns inv before
        obtain ⟨visits, routed, recorded⟩ := ih distinct returns'
          (first.or ((visitOf kind invs st).fault? p)) ((visitOf kind invs st).after p)
        rw [dispatchKinds_visit p rest none (returned _ st)]
        refine ⟨visitOf kind invs st :: visits, routed.visit fresh none rfl, fun before => ?_⟩
        rw [dispatchKinds_visit p.recording rest none (recordedReturns _ _), List.append_cons]
        exact recorded (before ++ [visitOf kind invs st])

theorem dispatch_of_supported (p : Purger σ) {invs : List Invalidation}
    (supported : ∀ inv ∈ invs, inv.kind ∈ p.supported) (st : σ) :
    p.dispatch invs st = p.dispatchKinds Kind.all none invs st := by
  have none : (invs.find? fun inv => !p.supported.contains inv.kind) = none := by
    rw [List.find?_eq_none]
    intro inv among
    simpa using supported inv among
  rw [dispatch, none]

theorem dispatchKinds_done {p : Purger σ}
    (done : ∀ kind batch st, (p.handle kind batch st).1.2 = .done) (kinds : List Kind)
    (invs : List Invalidation) (st : σ) : (p.dispatchKinds kinds none invs st).1.2 = .done := by
  induction kinds generalizing invs st with
  | nil => rfl
  | cons kind rest ih =>
      rw [dispatchKinds]
      split
      · exact ih invs st
      · simp only [bind_apply, done]
        exact ih _ _

/-- A dispatch breaks off if some handler is sure to break off for what it is called with. -/
theorem dispatchKinds_breaks {p : Purger σ} {panic : Panic} {bad : Invalidation → Bool}
    (breaks : ∀ kind batch st, batch ≠ [] → (∀ inv ∈ batch, inv.kind = kind) →
      (p.handle kind batch st).1.2 = if batch.any bad then .panicked panic else .done)
    (kinds : List Kind) (first : Option Fault) {invs : List Invalidation} (st : σ) {i : Nat}
    {inv : Invalidation} (found : invs[i]? = some inv) (among : inv.kind ∈ kinds)
    (broken : bad inv = true) :
    (p.dispatchKinds kinds first invs st).1.2 = .panicked panic := by
  induction kinds generalizing first invs st with
  | nil => cases among
  | cons kind rest ih =>
      have own (same : inv.kind = kind) : inv ∈ invs.filter (·.kind = kind) :=
        List.mem_filter.mpr ⟨List.mem_of_getElem? found, decide_eq_true same⟩
      rw [dispatchKinds]
      split
      · next empty =>
          have other : inv.kind ≠ kind := fun same => by
            simp [List.isEmpty_iff.mp empty] at own
            exact own same
          exact ih first st found ((List.mem_cons.mp among).resolve_left other)
      · next nonempty =>
          have answer := breaks kind (invs.filter (·.kind = kind)) st
            (fun empty => nonempty (List.isEmpty_iff.mpr empty))
            fun inv inside => of_decide_eq_true (List.mem_filter.mp inside).2
          simp only [bind_apply]
          generalize p.handle kind (invs.filter (·.kind = kind)) st = handled at answer
          obtain ⟨⟨states, ending⟩, st'⟩ := handled
          by_cases any : (invs.filter (·.kind = kind)).any bad
          · rw [if_pos any] at answer
            rw [answer]
            rfl
          · rw [if_neg any] at answer
            have other : inv.kind ≠ kind := fun same =>
              any (List.any_eq_true.mpr ⟨inv, own same, broken⟩)
            have still := Invalidation.getElem?_advanceKind_of_ne states found other
            rw [answer]
            exact ih first st' still ((List.mem_cons.mp among).resolve_left other)

/-- For any purger whose handlers return, and any list of invalidations of kinds that it supports: a
dispatch visits the handler of each kind that occurs, once and in the order of the kinds, with all
invalidations of the kind as they were submitted, whatever the visits before came to. It ends with
the first fault that a visit reported, and every invalidation is, in its place, as the visit of its
kind left it, failed if that left it unsettled. -/
theorem dispatch_routes (p : Purger σ) (invs : List Invalidation) (st : σ)
    (supported : ∀ inv ∈ invs, inv.kind ∈ p.supported)
    (returns : ∀ inv ∈ invs, p.Returns inv.kind) :
    ∃ (final : List Invalidation) (ending : Ending) (st' : σ) (visits : List (Visit σ)),
      p.dispatch invs st = ((final, ending), st') ∧
      p.recording.dispatch invs (st, []) = ((final, ending), (st', visits)) ∧
      visits.map (fun visit => (visit.kind, visit.batch)) =
        (Kind.all.filter fun kind => !(Invalidation.ofKind kind invs).isEmpty).map
          (fun kind => (kind, Invalidation.ofKind kind invs)) ∧
      visits.map (·.before) ++ [st'] = st :: visits.map (·.after p) ∧
      ending = endingOf (visits.findSome? (·.fault? p)) ∧
      final.length = invs.length ∧
      ∀ (i : Nat) (inv : Invalidation), invs[i]? = some inv →
        ∃ visit ∈ visits, visit.kind = inv.kind ∧
          ∃ left, (visit.left p)[Invalidation.placeOfKind inv.kind invs i]? = some left ∧
            final[i]? = some { inv with
              state := if left.isTerminal then left.state else .failed } := by
  obtain ⟨visits, routed, recorded⟩ := dispatchKinds_routed p Kind.nodup_all returns none st
  rw [dispatch_of_supported p supported, dispatch_of_supported p.recording supported, recorded]
  exact ⟨_, _, _, visits, rfl, rfl, routed.calls, routed.chained, routed.ending, routed.length,
    fun i inv found => routed.settled i inv found inv.kind.mem_all⟩

/-- The handler of tags succeeds them and yet reports a fault, that of pages leaves its page as it
is. The page between two tags fails, and the fault of the tags is the dispatch's. -/
theorem dispatch_routes_scripted :
    let script : Kind → Option Script := fun kind =>
      if kind = .tag then some ⟨[], .succeed, some (.vendorFault "down")⟩
      else some ⟨[], .leave, none⟩
    let p := scripted "scripted" Kind.all script
    let first := Invalidation.ofId 1 .tag "a"
    let page := Invalidation.ofId 2 .url "https://example.com/"
    let second := Invalidation.ofId 3 .tag "b"
    ∃ st' visits, p.recording.dispatch [first, page, second] ([], []) =
        (([first.succeed, page.fail, second.succeed], .failed (.vendorFault "down")),
          (st', visits)) ∧
      visits.map (fun visit => (visit.kind, visit.batch)) =
        [(.tag, [first, second]), (.url, [page])] := by
  intro script p first page second
  have returns : ∀ inv ∈ [first, page, second], p.Returns inv.kind := by
    intro inv _ batch st panic
    cases h : inv.kind <;> nofun
  obtain ⟨final, ending, st', visits, run, recorded, calls, -⟩ :=
    dispatch_routes p [first, page, second] [] (by decide) returns
  have answer : (p.dispatch [first, page, second] []).1 =
      ([first.succeed, page.fail, second.succeed], .failed (.vendorFault "down")) := rfl
  rw [run] at answer
  obtain ⟨rfl, rfl⟩ := Prod.mk.inj answer
  exact ⟨st', visits, recorded, calls⟩

end Purger
end CachePurge
