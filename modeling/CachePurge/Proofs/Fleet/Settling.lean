import CachePurge.Proofs.Fleet.Tries
import CachePurge.Proofs.Invalidation.Advance

/-!
What a handler does before and after its requests: it admits what can be sent, settles the rest of
its batch by the results, and counts what it settles. None of this reaches the surroundings.
-/

namespace CachePurge.Fleet

variable {ε : Type}

/-- A program is over with an answer, has not reached the surroundings, and has counted
invalidations in some states. -/
def Tallies {α : Type} (run : α × Ledger ε) (l : Ledger ε) (answer : α) (states : List State) :
    Prop :=
  run.1 = answer ∧ run.2.outside = l.outside ∧ l.tally.Gains states run.2.tally

theorem count_tallies (success : Bool) (n : Nat) (l : Ledger ε) :
    Tallies (Ledger.count success n l) l () (List.replicate n (.ofSuccess success)) :=
  ⟨rfl, rfl, Tally.outcome_gains l.tally success n⟩

theorem mapM_tallies {α β : Type} {f : α → StateM (Ledger ε) β} {g : α → β}
    {counted : α → List State} (each : ∀ x l, Tallies (f x l) l (g x) (counted x))
    (xs : List α) (l : Ledger ε) :
    Tallies (xs.mapM f l) l (xs.map g) (xs.flatMap counted) := by
  induction xs generalizing l with
  | nil => exact ⟨rfl, rfl, .refl _⟩
  | cons x rest ih =>
      obtain ⟨answer, outside, gains⟩ := each x l
      obtain ⟨answers, outside', gains'⟩ := ih (f x l).2
      rw [mapM_cons_apply]
      refine ⟨?_, outside'.trans outside, gains.trans gains'⟩
      rw [List.map_cons, answer, answers]

theorem admitTag_of_isSendable {inv : Invalidation} (sendable : isSendable inv) :
    admitTag inv = inv.process := if_pos sendable

theorem admitTag_of_not_isSendable {inv : Invalidation} (rejected : isSendable inv = false) :
    admitTag inv = inv.fail := if_neg (by simp [rejected])

theorem isSendable_admitTag (inv : Invalidation) : isSendable (admitTag inv) = isSendable inv := by
  cases h : isSendable inv with
  | true => rw [admitTag_of_isSendable h, ← h]; rfl
  | false => rw [admitTag_of_not_isSendable h, ← h]; rfl

theorem admitTag_expression (inv : Invalidation) : (admitTag inv).expression = inv.expression := by
  rw [admitTag]
  split <;> rfl

theorem advance_admitTag {inv : Invalidation} (unsettled : inv.isTerminal = false)
    (success : Bool) :
    (if isSendable (admitTag inv) then (admitTag inv).settle success else admitTag inv) =
      inv.settle (isSendable inv && success) := by
  rw [isSendable_admitTag]
  cases h : isSendable inv with
  | true =>
      rw [admitTag_of_isSendable h, if_pos rfl, Bool.true_and]
      exact Invalidation.settle_process unsettled success
  | false =>
      rw [admitTag_of_not_isSendable h, if_neg Bool.false_ne_true, Bool.false_and]
      rfl

theorem admitTags_tallies (batch : List Invalidation) (l : Ledger ε) :
    Tallies (admitTags batch l) l (batch.map admitTag)
      (batch.flatMap fun inv => if isSendable inv then [] else [.failed]) := by
  refine mapM_tallies (fun inv l => ?_) batch l
  cases h : isSendable inv with
  | true => exact ⟨rfl, rfl, .refl _⟩
  | false => exact ⟨rfl, rfl, Tally.outcome_gains l.tally false 1⟩

/-- The states that groups of tags are left in by the results under their numbers. -/
def groupStates (groups : List (List Invalidation)) (results : Fanout.Results Nat) : List State :=
  groups.zipIdx.flatMap fun x => List.replicate x.1.length (.ofSuccess (results.succeeded x.2))

theorem settleTags_tallies (groups : List (List Invalidation)) (results : Fanout.Results Nat)
    (batch : List Invalidation) (l : Ledger ε) :
    Tallies (settleTags groups results batch l) l
      (Invalidation.advanceEach isSendable batch (groupStates groups results))
      (groupStates groups results) := by
  have counted (settled : List (Nat × Bool)) (l : Ledger ε) :
      Tallies ((settled.forM fun x => Ledger.count x.2 x.1) l) l ()
        (settled.flatMap fun x => List.replicate x.1 (.ofSuccess x.2)) := by
    induction settled generalizing l with
    | nil => exact ⟨rfl, rfl, .refl _⟩
    | cons x rest ih =>
        obtain ⟨-, outside, gains⟩ := count_tallies x.2 x.1 l
        obtain ⟨-, outside', gains'⟩ := ih (Ledger.count x.2 x.1 l).2
        exact ⟨rfl, outside'.trans outside, gains.trans gains'⟩
  have states : groupStates groups results =
      (groups.zipIdx.map fun x => (x.1.length, results.succeeded x.2)).flatMap fun x =>
        List.replicate x.1 (State.ofSuccess x.2) := by
    rw [groupStates, List.flatMap_map]
  rw [states]
  exact ⟨rfl, (counted _ l).2⟩

theorem admitPage_of_isRoutable {inv : Invalidation} (routable : isRoutable inv.expression) :
    admitPage inv = inv.process := if_pos routable

theorem admitPage_of_not_isRoutable {inv : Invalidation}
    (unroutable : isRoutable inv.expression = false) : admitPage inv = inv.fail :=
  if_neg (by simp [unroutable])

theorem admitPage_id (inv : Invalidation) : (admitPage inv).id = inv.id := by
  rw [admitPage]
  split <;> rfl

theorem admitPage_expression (inv : Invalidation) :
    (admitPage inv).expression = inv.expression := by
  rw [admitPage]
  split <;> rfl

/-- What is left of a page that has been through a fan-out. -/
def settlePage (results : Fanout.Results Uuid) (inv : Invalidation) : Invalidation :=
  if inv.isTerminal then inv else inv.settle (results.succeeded inv.id)

theorem isTerminal_admitPage {inv : Invalidation} (unsettled : inv.isTerminal = false) :
    (admitPage inv).isTerminal = !isRoutable inv.expression := by
  cases h : isRoutable inv.expression with
  | true =>
      rw [admitPage_of_isRoutable h, Invalidation.isTerminal, Invalidation.process,
        Invalidation.advance, State.advance_processing unsettled]
      rfl
  | false =>
      rw [admitPage_of_not_isRoutable h, Invalidation.isTerminal, Invalidation.fail,
        Invalidation.advance, State.advance_failed unsettled]
      rfl

/-- What becomes of a page whose admission is followed by a verdict. -/
theorem settlePage_admitPage {results : Fanout.Results Uuid} {inv : Invalidation}
    (unsettled : inv.isTerminal = false) :
    settlePage results (admitPage inv) =
      inv.settle (isRoutable inv.expression && results.succeeded inv.id) := by
  rw [settlePage, isTerminal_admitPage unsettled]
  cases h : isRoutable inv.expression with
  | true =>
      rw [admitPage_of_isRoutable h, Bool.not_true, if_neg Bool.false_ne_true, Bool.true_and]
      exact Invalidation.settle_process unsettled _
  | false =>
      rw [admitPage_of_not_isRoutable h, Bool.not_false, if_pos rfl, Bool.false_and]
      rfl

theorem settlePages_tallies (results : Fanout.Results Uuid) (batch : List Invalidation)
    (l : Ledger ε) :
    Tallies (settlePages results batch l) l (batch.map (settlePage results))
      (batch.flatMap fun inv =>
        if inv.isTerminal then [] else [.ofSuccess (results.succeeded inv.id)]) := by
  refine mapM_tallies (fun inv l => ?_) batch l
  rw [settlePage]
  cases h : inv.isTerminal with
  | true => exact ⟨rfl, rfl, .refl _⟩
  | false => exact ⟨rfl, rfl, Tally.outcome_gains l.tally (results.succeeded inv.id) 1⟩

variable (s : Surroundings ε)

theorem exchange_tally (request : Except Fault Http.Request) (l : Ledger ε) :
    (exchange s request l).2.tally = l.tally := by
  obtain ⟨-, -, -, -, kept⟩ := exchange_try s ⟨.site, "", request⟩ l
  exact kept

/-- The purger supports all kinds, so a dispatch handles them one after the other. -/
theorem dispatch_eq (pace : Pace) (invs : List Invalidation) :
    (purger s pace).dispatch invs = (purger s pace).dispatchKinds Kind.all none invs := by
  have supported : invs.find? (fun inv => !(purger s pace).supported.contains inv.kind) = none := by
    refine List.find?_eq_none.mpr fun inv _ => ?_
    rw [Bool.not_eq_true', Bool.not_eq_false]
    exact List.contains_iff_mem.mpr (Kind.mem_all inv.kind)
  rw [Purger.dispatch, supported]

end CachePurge.Fleet
