import CachePurge.Proofs.Purger.Forward
import CachePurge.Proofs.Purger.Routing

/-!
A mixed list is dispatched as its kinds are, one list after another. This needs handlers that leave
nothing open when they return: what a mixed dispatch fails at its end, the dispatch of a single kind
fails before the next kind is tried.
-/

namespace CachePurge
namespace Invalidation

theorem ofKind_advanceKind (kind : Kind) (invs : List Invalidation) (states : List State) :
    ofKind kind (advanceKind kind invs states) =
      advanceEach (fun _ => true) (ofKind kind invs) states := by
  rw [ofKind, advanceKind, ofKind]
  induction invs generalizing states with
  | nil => rfl
  | cons inv rest ih =>
      by_cases own : inv.kind = kind
      · have own' (next : State) : (inv.advance next).kind = kind := own
        cases states with
        | nil => rw [advanceEach_nil, advanceEach_nil]
        | cons next states =>
            simp only [advanceEach, own, own', decide_true, if_true, List.filter_cons, ih]
      · rw [advanceEach_cons_of_not (decide_eq_false own),
          List.filter_cons_of_neg (by simpa using own),
          List.filter_cons_of_neg (by simpa using own), ih]

theorem advanceEach_own {kind : Kind} {batch : List Invalidation}
    (own : ∀ inv ∈ batch, inv.kind = kind) (states : List State) :
    advanceEach (·.kind = kind) batch states = advanceEach (fun _ => true) batch states := by
  induction batch generalizing states with
  | nil => rfl
  | cons inv rest ih =>
      obtain ⟨head, tail⟩ := List.forall_mem_cons.mp own
      cases states with
      | nil => rfl
      | cons next states => simp only [advanceEach, head, decide_true, if_true, ih tail]

theorem Moved.ofKind {invs after : List Invalidation} (moved : Moved invs after) (kind : Kind) :
    Moved (ofKind kind invs) (ofKind kind after) := by
  induction moved with
  | nil => exact .nil
  | @cons inv inv' _ _ moves _ ih =>
      have same : inv'.kind = inv.kind := by rw [moves.still]
      simp only [Invalidation.ofKind, List.filter_cons, same]
      split
      · exact .cons moves ih
      · exact ih

theorem flatten_ofKind_perm (invs : List Invalidation) :
    (Kind.all.map fun kind => Invalidation.ofKind kind invs).flatten.Perm invs := by
  induction invs with
  | nil => exact .refl _
  | cons inv rest ih =>
      refine .trans ?_ (ih.cons inv)
      simp only [Kind.all, List.map_cons, List.map_nil, List.flatten_cons, List.flatten_nil,
        List.append_nil, Invalidation.ofKind, List.filter_cons]
      cases inv.kind with
      | tag => exact .refl _
      | url => exact List.perm_middle
      | wildcardUrl => exact (List.perm_middle.append_left _).trans List.perm_middle
      | everything =>
          refine ((List.perm_middle.append_left _).append_left _).trans ?_
          exact (List.perm_middle.append_left _).trans List.perm_middle

/-- Puts batches of single kinds together, in the order of some kinds. -/
def weave : List Kind → (Kind → List Invalidation) → List Invalidation
  | [], _ => []
  | kind :: kinds, batches =>
    match batches kind with
    | [] => weave kinds batches
    | inv :: rest =>
      inv :: weave kinds fun other => if other = kind then rest else batches other

theorem weave_ofKind (invs : List Invalidation) :
    weave (invs.map (·.kind)) (fun kind => ofKind kind invs) = invs := by
  induction invs with
  | nil => rfl
  | cons inv rest ih =>
      have first : ofKind inv.kind (inv :: rest) = inv :: ofKind inv.kind rest := by
        rw [ofKind, List.filter_cons_of_pos (by simp), ofKind]
      have others : (fun other => if other = inv.kind then ofKind inv.kind rest
          else ofKind other (inv :: rest)) = fun kind => ofKind kind rest := by
        funext other
        by_cases same : other = inv.kind
        · rw [if_pos same, same]
        · rw [if_neg same, ofKind, List.filter_cons_of_neg (by simpa using Ne.symm same), ofKind]
      rw [List.map_cons, weave, first]
      simp only [others, ih]

end Invalidation

namespace Purger

open Invalidation (ofKind advanceKind advanceEach weave)

variable {σ : Type} {p : Purger σ}

/-- Dispatches lists one after another. The first fault is kept while the others go on; if one
breaks off then those after it are not dispatched. -/
def dispatchEach (p : Purger σ) : (first : Option Fault) → List (List Invalidation) →
    StateM σ (List (List Invalidation) × Ending)
  | first, [] => return ([], endingOf first)
  | first, invs :: rest => do
    let (invs, ending) ← p.dispatch invs
    match ending with
    | .done =>
      let (rest, ending) ← p.dispatchEach first rest
      return (invs :: rest, ending)
    | .failed fault =>
      let (rest, ending) ← p.dispatchEach (first <|> some fault) rest
      return (invs :: rest, ending)
    | .panicked panic => return (invs :: rest, .panicked panic)

/-- A handler that returns leaves nothing of its batch open. -/
def Settles (p : Purger σ) : Prop :=
  ∀ kind ∈ p.supported, ∀ batch st, (∀ panic, (p.call kind batch st).1.2 ≠ .panicked panic) →
    ∀ inv ∈ (p.call kind batch st).1.1, inv.isTerminal

theorem done_ne_panicked (panic : Panic) : Ending.done ≠ .panicked panic := nofun

theorem failed_ne_panicked (fault : Fault) (panic : Panic) :
    Ending.failed fault ≠ .panicked panic := nofun

section Call
variable {kind : Kind} {batch : List Invalidation} {states : List State} {ending : Ending}
  {st st' : σ} (handled : p.handle kind batch st = ((states, ending), st'))
include handled

theorem call_eq :
    p.call kind batch st = ((advanceEach (fun _ => true) batch states, ending), st') := by
  rw [call, bind_apply, handled]
  rfl

theorem Settles.terminal (settles : p.Settles) (supported : kind ∈ p.supported)
    (returned : ∀ panic, ending ≠ .panicked panic) :
    ∀ inv ∈ advanceEach (fun _ => true) batch states, inv.isTerminal := by
  have left := settles kind supported batch st
  rw [call_eq handled] at left
  exact left returned

end Call

/-- What a handler makes of its batch: nothing in it goes back and, if the handler returns, nothing
is left open. -/
structure Handled (batch : List Invalidation) (run : List Invalidation × Ending) : Prop where
  moved : Invalidation.Moved batch run.1
  settled : (∀ panic, run.2 ≠ .panicked panic) → ∀ inv ∈ run.1, inv.isTerminal

theorem Handled.broken {batch after : List Invalidation} (moved : Invalidation.Moved batch after)
    (panic : Panic) : Handled batch (after, .panicked panic) :=
  ⟨moved, fun returned => absurd rfl (returned panic)⟩

/-- Handlers report the states of what they make of their batches. -/
def Handles (p : Purger σ) : Prop :=
  ∀ kind batch st, ∃ after, (p.handle kind batch st).1.1 = after.map (·.state) ∧
    Handled batch (after, (p.handle kind batch st).1.2)

theorem Handles.forward (handles : p.Handles) : p.Forward := by
  intro kind batch st
  obtain ⟨after, states, moved, -⟩ := handles kind batch st
  exact states ▸ Invalidation.reach_of_moved moved

theorem Handles.settles (handles : p.Handles) : p.Settles := by
  intro kind _ batch st returned
  obtain ⟨after, states, moved, settled⟩ := handles kind batch st
  have left : (p.call kind batch st).1.1 = after :=
    (congrArg (advanceEach (fun _ => true) batch) states).trans
      (Invalidation.advanceEach_of_moved moved)
  rw [left]
  exact settled returned

theorem dispatchKinds_absent (p : Purger σ) {kinds : List Kind} {invs : List Invalidation}
    (absent : ∀ kind ∈ kinds, ofKind kind invs = []) (first : Option Fault) (st : σ) :
    p.dispatchKinds kinds first invs st = ((invs.map Invalidation.fail, endingOf first), st) := by
  induction kinds with
  | nil => cases first <;> rfl
  | cons kind rest ih =>
      obtain ⟨none, others⟩ := List.forall_mem_cons.mp absent
      rw [dispatchKinds_skip p rest none, ih others]

theorem dispatch_nil (p : Purger σ) (st : σ) : p.dispatch [] st = (([], .done), st) :=
  (dispatch_of_supported p (fun _ among => absurd among List.not_mem_nil) st).trans
    (p.dispatchKinds_absent (fun _ _ => rfl) none st)

section Batch
variable {kind : Kind} {batch : List Invalidation} (own : ∀ inv ∈ batch, inv.kind = kind)
include own

theorem ofKind_own : ofKind kind batch = batch :=
  List.filter_eq_self.mpr fun inv among => decide_eq_true (own inv among)

theorem ofKind_other {other : Kind} (differ : other ≠ kind) : ofKind other batch = [] := by
  refine List.filter_eq_nil_iff.mpr fun inv among => ?_
  rw [own inv among, decide_eq_true_eq]
  exact differ.symm

theorem dispatchKinds_own (settles : p.Settles) (supported : kind ∈ p.supported)
    (some_ : batch ≠ []) {kinds : List Kind} (among : kind ∈ kinds) (distinct : kinds.Nodup)
    (st : σ) : p.dispatchKinds kinds none batch st = p.call kind batch st := by
  induction kinds with
  | nil => cases among
  | cons other rest ih =>
      obtain ⟨fresh, distinct⟩ := List.nodup_cons.mp distinct
      by_cases same : other = kind
      · subst same
        have empty : batch.isEmpty = false := List.isEmpty_eq_false_iff.mpr some_
        have whole : (batch.filter fun inv => inv.kind = other) = batch := ofKind_own own
        rw [dispatchKinds, whole, empty, if_neg Bool.false_ne_true, bind_apply]
        obtain ⟨⟨⟨states, ending⟩, st'⟩, handled⟩ : ∃ run, p.handle other batch st = run :=
          ⟨_, rfl⟩
        have left : advanceKind other batch states = advanceEach (fun _ => true) batch states :=
          Invalidation.advanceEach_own own states
        have absent : ∀ kind ∈ rest, ofKind kind (advanceKind other batch states) = [] := by
          intro kind among
          have differ : kind ≠ other := fun same => fresh (same ▸ among)
          rw [Invalidation.ofKind_advanceKind_of_ne batch states differ, ofKind_other own differ]
        have swept (returned : ∀ panic, ending ≠ .panicked panic) :=
          Invalidation.map_fail_of_isTerminal (settles.terminal handled supported returned)
        rw [handled, call_eq handled, ← left]
        rw [← left] at swept
        cases ending with
        | done =>
            refine (p.dispatchKinds_absent absent none st').trans ?_
            rw [swept done_ne_panicked]
            rfl
        | failed fault =>
            refine (p.dispatchKinds_absent absent (some fault) st').trans ?_
            rw [swept (failed_ne_panicked fault)]
            rfl
        | panicked panic => rfl
      · rw [dispatchKinds_skip p rest (ofKind_other own same)]
        exact ih ((List.mem_cons.mp among).resolve_left (Ne.symm same)) distinct

/-- The dispatch of a list of one kind is a call of the handler of that kind. -/
theorem dispatch_own (settles : p.Settles) (supported : kind ∈ p.supported) (some_ : batch ≠ [])
    (st : σ) : p.dispatch batch st = p.call kind batch st := by
  rw [dispatch_of_supported p fun inv among => own inv among ▸ supported]
  exact dispatchKinds_own own settles supported some_ kind.mem_all Kind.nodup_all st

end Batch

/-- The dispatch of some kinds comes to the same as that of their lists one after another, and does
nothing to the other kinds. -/
def Splits (p : Purger σ) (kinds : List Kind) (first : Option Fault) (invs : List Invalidation)
    (st : σ) : Prop :=
  let run := p.dispatchKinds kinds first invs st
  p.dispatchEach first (kinds.map fun kind => ofKind kind invs) st =
      ((kinds.map fun kind => ofKind kind run.1.1, run.1.2), run.2) ∧
    ∀ kind ∉ kinds, ofKind kind run.1.1 = ofKind kind invs

section Step
variable {kind : Kind} {rest : List Kind} {invs : List Invalidation}

theorem Splits.skip (fresh : kind ∉ rest) (none : ofKind kind invs = []) {first : Option Fault}
    {st : σ} (later : p.Splits rest first invs st) : p.Splits (kind :: rest) first invs st := by
  obtain ⟨each, kept⟩ := later
  rw [Splits, dispatchKinds_skip p rest none]
  refine ⟨?_, fun other outside => kept other (mt (List.mem_cons_of_mem kind) outside)⟩
  rw [List.map_cons, List.map_cons, kept kind fresh, none, dispatchEach, bind_apply, dispatch_nil]
  simp only [bind_apply, each, pure_apply]

/-- What the handler of a kind is called for is settled after it, and so is no concern of the kinds
that follow. -/
theorem Splits.visit (settles : p.Settles) (supported : kind ∈ p.supported) (fresh : kind ∉ rest)
    (some_ : ofKind kind invs ≠ []) {first : Option Fault} {st : σ}
    (later : ∀ states ending st', p.handle kind (ofKind kind invs) st = ((states, ending), st') →
      (∀ panic, ending ≠ .panicked panic) →
        ∀ first, p.Splits rest first (advanceKind kind invs states) st') :
    p.Splits (kind :: rest) first invs st := by
  obtain ⟨⟨⟨states, ending⟩, st'⟩, handled⟩ :
    ∃ run, p.handle kind (ofKind kind invs) st = run := ⟨_, rfl⟩
  have handled' : p.handle kind (invs.filter fun inv => inv.kind = kind) st = _ := handled
  have empty : (invs.filter fun inv => inv.kind = kind).isEmpty = false :=
    List.isEmpty_eq_false_iff.mpr some_
  have own : ∀ inv ∈ ofKind kind invs, inv.kind = kind := fun inv among =>
    of_decide_eq_true (List.mem_filter.mp among).2
  have others : ∀ other ≠ kind, ofKind other (advanceKind kind invs states) = ofKind other invs :=
    fun other differ => Invalidation.ofKind_advanceKind_of_ne invs states differ
  have again : (rest.map fun other => ofKind other (advanceKind kind invs states)) =
      rest.map fun other => ofKind other invs :=
    List.map_congr_left fun other among => others other fun same => fresh (same ▸ among)
  have next (returned : ∀ panic, ending ≠ .panicked panic) (first : Option Fault) :
      let run := p.dispatchKinds rest first (advanceKind kind invs states) st'
      p.dispatchEach first (rest.map fun other => ofKind other invs) st' =
          ((rest.map fun other => ofKind other run.1.1, run.1.2), run.2) ∧
        ofKind kind run.1.1 = advanceEach (fun _ => true) (ofKind kind invs) states ∧
        ∀ other ∉ kind :: rest, ofKind other run.1.1 = ofKind other invs := by
    obtain ⟨each, kept⟩ := later states ending st' handled returned first
    rw [again] at each
    refine ⟨each, (kept kind fresh).trans (Invalidation.ofKind_advanceKind kind invs states), ?_⟩
    intro other outside
    rw [kept other (List.not_mem_of_not_mem_cons outside),
      others other (List.ne_of_not_mem_cons outside)]
  rw [Splits, List.map_cons, dispatchEach, bind_apply, dispatch_own own settles supported some_,
    call_eq handled, dispatchKinds, empty, if_neg Bool.false_ne_true, bind_apply, handled']
  cases ending with
  | done =>
      obtain ⟨each, head, kept⟩ := next done_ne_panicked first
      refine ⟨?_, kept⟩
      simp only [bind_apply, each, pure_apply, List.map_cons]
      rw [← head]
      rfl
  | failed fault =>
      obtain ⟨each, head, kept⟩ := next (failed_ne_panicked fault) (first <|> some fault)
      refine ⟨?_, kept⟩
      simp only [bind_apply, each, pure_apply, List.map_cons]
      rw [← head]
      rfl
  | panicked panic =>
      refine ⟨?_, fun other outside => others other (List.ne_of_not_mem_cons outside)⟩
      rw [← Invalidation.ofKind_advanceKind, ← again]
      rfl

end Step

theorem dispatchKinds_splits (settles : p.Settles) {kinds : List Kind} (distinct : kinds.Nodup)
    (first : Option Fault) {invs : List Invalidation}
    (supported : ∀ inv ∈ invs, inv.kind ∈ p.supported)
    (settled : ∀ inv ∈ invs, inv.kind ∉ kinds → inv.isTerminal) (st : σ) :
    p.Splits kinds first invs st := by
  induction kinds generalizing first invs st with
  | nil =>
      have all := Invalidation.map_fail_of_isTerminal fun inv among =>
        settled inv among List.not_mem_nil
      refine ⟨by cases first <;> rfl, fun kind _ => congrArg (ofKind kind) all⟩
  | cons kind rest ih =>
      obtain ⟨fresh, distinct⟩ := List.nodup_cons.mp distinct
      by_cases none : ofKind kind invs = []
      · refine .skip fresh none (ih distinct first supported (fun inv among outside => ?_) st)
        refine settled inv among (List.not_mem_cons_of_ne_of_not_mem (fun same => ?_) outside)
        have inside : inv ∈ ofKind kind invs := List.mem_filter.mpr ⟨among, decide_eq_true same⟩
        rw [none] at inside
        cases inside
      · obtain ⟨inv, inside⟩ := List.exists_mem_of_ne_nil _ none
        obtain ⟨among, own⟩ := List.mem_filter.mp inside
        have listed : kind ∈ p.supported := of_decide_eq_true own ▸ supported inv among
        refine .visit settles listed fresh none fun states ending st' handled returned first => ?_
        refine ih distinct first (fun inv among => ?_) (fun inv among outside => ?_) st'
        · obtain ⟨before, earlier, same⟩ := Invalidation.still_of_mem
            (Invalidation.advanceKind_still invs states kind) among
          rw [same]
          exact supported before earlier
        · have here : inv ∈ ofKind inv.kind (advanceKind kind invs states) :=
            List.mem_filter.mpr ⟨among, decide_eq_true rfl⟩
          by_cases now : inv.kind = kind
          · rw [now, Invalidation.ofKind_advanceKind] at here
            exact settles.terminal handled listed returned inv here
          · rw [Invalidation.ofKind_advanceKind_of_ne invs states now] at here
            exact settled inv (List.mem_filter.mp here).1
              (List.not_mem_cons_of_ne_of_not_mem now outside)

theorem dispatch_splits (settles : p.Settles) {invs : List Invalidation}
    (supported : ∀ inv ∈ invs, inv.kind ∈ p.supported) (st : σ) :
    p.dispatchEach none (Kind.all.map fun kind => ofKind kind invs) st =
      ((Kind.all.map fun kind => ofKind kind (p.dispatch invs st).1.1, (p.dispatch invs st).1.2),
        (p.dispatch invs st).2) := by
  rw [dispatch_of_supported p supported]
  exact (dispatchKinds_splits settles Kind.nodup_all none supported
    (fun inv _ outside => absurd inv.kind.mem_all outside) st).1

/-- For a purger whose handlers settle what they are called for it is of no matter how the kinds of
a list stand among each other: any list with the same invalidations of each kind is dispatched as
these are, kind by kind, and what becomes of it is put together from what becomes of them. -/
theorem dispatch_weaves (settles : p.Settles) {invs : List Invalidation}
    (supported : ∀ inv ∈ invs, inv.kind ∈ p.supported) (st : σ) :
    ∃ (left : Kind → List Invalidation) (ending : Ending) (st' : σ),
      p.dispatchEach none (Kind.all.map fun kind => ofKind kind invs) st =
        ((Kind.all.map left, ending), st') ∧
      (∀ kind, Invalidation.Moved (ofKind kind invs) (left kind)) ∧
      ∀ other : List Invalidation, (∀ kind, ofKind kind other = ofKind kind invs) →
        p.dispatch other st = ((weave (other.map (·.kind)) left, ending), st') := by
  have each := dispatch_splits settles supported st
  refine ⟨_, _, _, each, (p.dispatch_moved invs st).ofKind, fun other same => ?_⟩
  have supported' : ∀ inv ∈ other, inv.kind ∈ p.supported := by
    intro inv among
    have here : inv ∈ ofKind inv.kind other := List.mem_filter.mpr ⟨among, decide_eq_true rfl⟩
    rw [same] at here
    exact supported inv (List.mem_filter.mp here).1
  have each' := dispatch_splits settles supported' st
  simp only [same] at each'
  obtain ⟨answers, states⟩ := Prod.mk.inj (each'.symm.trans each)
  obtain ⟨lists, endings⟩ := Prod.mk.inj answers
  have left : ∀ kind, ofKind kind (p.dispatch other st).1.1 =
      ofKind kind (p.dispatch invs st).1.1 := fun kind =>
    List.map_inj_left.mp lists kind kind.mem_all
  have kinds := Invalidation.map_kind_of_still
    ((p.dispatch_moved other st).imp fun _ _ moves => moves.still)
  have woven := Invalidation.weave_ofKind (p.dispatch other st).1.1
  simp only [left, kinds] at woven
  rw [woven, ← endings, ← states]
  rfl

end Purger
end CachePurge
