import CachePurge.Purger.Basic
import Mathlib.Data.List.Forall2

/-!
States move forward only. What a handler reports of its batch is therefore what its invalidations
come to be, and the others of a mixed list stay as they are.
-/

namespace CachePurge

theorem Kind.mem_all (kind : Kind) : kind ∈ Kind.all := by
  cases kind <;> decide

theorem Kind.nodup_all : Kind.all.Nodup := by decide

namespace State

theorem advance_of_isTerminal {s : State} (h : s.isTerminal) (next : State) :
    s.advance next = s := by
  cases s <;> cases next <;> first | rfl | cases h

theorem isTerminal_ofSuccess (success : Bool) : (ofSuccess success).isTerminal := by
  cases success <;> rfl

theorem ofSuccess_eq_succeeded_iff (success : Bool) :
    ofSuccess success = .succeeded ↔ success = true := by
  cases success <;> simp [ofSuccess]

theorem advance_processing {s : State} (h : s.isTerminal = false) :
    s.advance .processing = .processing := by
  cases s <;> first | rfl | cases h

theorem advance_ofSuccess {s : State} (h : s.isTerminal = false) (success : Bool) :
    s.advance (ofSuccess success) = ofSuccess success := by
  cases s <;> cases success <;> first | rfl | cases h

theorem advance_failed {s : State} (h : s.isTerminal = false) : s.advance .failed = .failed :=
  advance_ofSuccess h false

/-- A state stays or moves forward. -/
def Reaches (s next : State) : Prop := next = s ∨ s.canMoveTo next

theorem reaches_advance (s next : State) : s.Reaches (s.advance next) := by
  rw [advance]
  split
  · exact .inr ‹_›
  · exact .inl rfl

theorem Reaches.trans {s s' s'' : State} (first : s.Reaches s') (second : s'.Reaches s'') :
    s.Reaches s'' := by
  simp only [Reaches, canMoveTo, decide_eq_true_eq] at *
  rcases first with rfl | first
  · exact second
  · rcases second with rfl | second
    · exact .inr first
    · exact .inr (Nat.lt_trans first second)

theorem Reaches.advance_eq {s next : State} (h : s.Reaches next) : s.advance next = next := by
  rcases h with rfl | h
  · exact ite_self _
  · exact if_pos h

theorem Reaches.eq_of_isTerminal {s next : State} (h : s.Reaches next) (terminal : s.isTerminal) :
    next = s :=
  h.advance_eq.symm.trans (advance_of_isTerminal terminal next)

end State

namespace Invalidation

theorem advance_of_isTerminal {inv : Invalidation} (h : inv.isTerminal) (next : State) :
    inv.advance next = inv := by
  simp only [advance, State.advance_of_isTerminal h]

theorem map_fail_of_isTerminal {invs : List Invalidation}
    (settled : ∀ inv ∈ invs, inv.isTerminal) : invs.map fail = invs := by
  induction invs with
  | nil => rfl
  | cons inv rest ih =>
      have ⟨head, tail⟩ := List.forall_mem_cons.mp settled
      simp only [List.map_cons, ih tail, fail, advance_of_isTerminal head]

theorem isTerminal_advance (inv : Invalidation) {next : State} (last : next.isTerminal) :
    (inv.advance next).isTerminal := by
  rw [isTerminal, advance]
  cases inv.state <;> cases next <;> first | rfl | cases last

theorem isTerminal_settle (inv : Invalidation) (success : Bool) :
    (inv.settle success).isTerminal :=
  inv.isTerminal_advance (State.isTerminal_ofSuccess success)

theorem isTerminal_fail (inv : Invalidation) : inv.fail.isTerminal := inv.isTerminal_settle false

theorem length_of_isTerminal {final : List Invalidation}
    (closed : ∀ inv ∈ final, inv.isTerminal = true) :
    final.countP (fun inv => decide (inv.state = .succeeded)) +
      final.countP (fun inv => decide (inv.state = .failed)) = final.length := by
  induction final with
  | nil => rfl
  | cons inv rest ih =>
      obtain ⟨first, closed⟩ := List.forall_mem_cons.mp closed
      rw [List.countP_cons, List.countP_cons, List.length_cons, ← ih closed]
      rw [Invalidation.isTerminal] at first
      cases h : inv.state with
      | new | processing => rw [h] at first; cases first
      | succeeded | failed => simp only [decide_true, reduceCtorEq, decide_false, if_true,
          Bool.false_eq_true, if_false]; omega

/-- The states of invalidations each of which is known to have succeeded or failed. -/
theorem states_of_settled (success : Nat → Invalidation → Bool)
    {invs final : List Invalidation} (length : final.length = invs.length)
    (settled : ∀ (i : Nat) (inv : Invalidation), invs[i]? = some inv → ∃ state : State,
      final[i]? = some { inv with state } ∧ (state = .succeeded ∨ state = .failed) ∧
      (state = .succeeded ↔ success i inv = true)) :
    final.map (·.state) = invs.zipIdx.map fun x => State.ofSuccess (success x.2 x.1) := by
  apply List.ext_getElem?
  intro i
  rw [List.getElem?_map, List.getElem?_map, List.getElem?_zipIdx, Nat.zero_add]
  cases at_i : invs[i]? with
  | none =>
      rw [List.getElem?_eq_none (length ▸ List.getElem?_eq_none_iff.mp at_i)]
      rfl
  | some inv =>
      obtain ⟨state, found, terminal, succeeded⟩ := settled i inv at_i
      have same : state = .ofSuccess (success i inv) := by
        cases judged : success i inv with
        | true => exact succeeded.mpr judged
        | false =>
            apply terminal.resolve_left
            intro success
            exact Bool.false_ne_true (judged.symm.trans (succeeded.mp success))
      rw [found, same]
      rfl

theorem settle_process {inv : Invalidation} (unsettled : inv.isTerminal = false) (success : Bool) :
    inv.process.settle success = inv.settle success := by
  have pending : State.processing.isTerminal = false := rfl
  simp only [settle, process, advance, State.advance_processing unsettled,
    State.advance_ofSuccess unsettled, State.advance_ofSuccess pending]

/-- The same invalidation, perhaps in another state. -/
def IsStill (inv inv' : Invalidation) : Prop := inv' = { inv with state := inv'.state }

theorem IsStill.trans {inv inv' inv'' : Invalidation} (first : inv.IsStill inv')
    (second : inv'.IsStill inv'') : inv.IsStill inv'' := by
  rw [IsStill] at *
  rw [second, first]

theorem isStill_advance (inv : Invalidation) (next : State) : inv.IsStill (inv.advance next) := rfl

theorem still_of_mem {batch after : List Invalidation}
    (still : List.Forall₂ IsStill batch after) {inv' : Invalidation}
    (inside : inv' ∈ after) : ∃ inv ∈ batch, inv.IsStill inv' := by
  induction still with
  | nil => cases inside
  | cons first _ ih =>
      cases List.mem_cons.mp inside with
      | inl same =>
          subst same
          exact ⟨_, List.mem_cons_self, first⟩
      | inr later =>
          obtain ⟨inv, among, same⟩ := ih later
          exact ⟨inv, List.mem_cons_of_mem _ among, same⟩

theorem forall₂_trans {R : Invalidation → Invalidation → Prop}
    (trans : ∀ inv inv' inv'', R inv inv' → R inv' inv'' → R inv inv'')
    {batch after later : List Invalidation} (first : List.Forall₂ R batch after)
    (second : List.Forall₂ R after later) : List.Forall₂ R batch later := by
  induction first generalizing later with
  | nil => exact second
  | cons same _ ih =>
      cases second with
      | cons same' others => exact .cons (trans _ _ _ same same') (ih others)

theorem still_trans {batch after later : List Invalidation}
    (first : List.Forall₂ IsStill batch after)
    (second : List.Forall₂ IsStill after later) :
    List.Forall₂ IsStill batch later :=
  forall₂_trans (R := IsStill) (fun _ _ _ => .trans) first second

/-- The same invalidation in the same state, or further on. -/
structure MovesTo (inv inv' : Invalidation) : Prop where
  still : inv.IsStill inv'
  forward : inv.state.Reaches inv'.state

theorem MovesTo.refl (inv : Invalidation) : inv.MovesTo inv := ⟨rfl, .inl rfl⟩

theorem MovesTo.trans {inv inv' inv'' : Invalidation} (first : inv.MovesTo inv')
    (second : inv'.MovesTo inv'') : inv.MovesTo inv'' :=
  ⟨first.still.trans second.still, first.forward.trans second.forward⟩

theorem MovesTo.eq_of_isTerminal {inv inv' : Invalidation} (moves : inv.MovesTo inv')
    (terminal : inv.isTerminal) : inv' = inv := by
  have still := moves.still
  rw [IsStill, moves.forward.eq_of_isTerminal terminal] at still
  exact still

theorem MovesTo.advance_eq {inv inv' : Invalidation} (moves : inv.MovesTo inv') :
    inv.advance inv'.state = inv' := by
  rw [advance, moves.forward.advance_eq]
  exact moves.still.symm

theorem advance_moves (inv : Invalidation) (next : State) : inv.MovesTo (inv.advance next) :=
  ⟨inv.isStill_advance next, inv.state.reaches_advance next⟩

/-- The same invalidations in their places, and none of them has gone back. -/
abbrev Moved : List Invalidation → List Invalidation → Prop := List.Forall₂ MovesTo

theorem Moved.refl (invs : List Invalidation) : Moved invs invs :=
  List.forall₂_same.mpr fun inv _ => .refl inv

theorem Moved.trans {batch after later : List Invalidation} (first : Moved batch after)
    (second : Moved after later) : Moved batch later :=
  forall₂_trans (R := MovesTo) (fun _ _ _ => .trans) first second

theorem Moved.eq_of_isTerminal {invs after : List Invalidation} (moved : Moved invs after)
    (terminal : ∀ inv ∈ invs, inv.isTerminal) : after = invs := by
  induction moved with
  | nil => rfl
  | cons moves _ ih =>
      have ⟨head, tail⟩ := List.forall_mem_cons.mp terminal
      rw [moves.eq_of_isTerminal head, ih tail]

theorem moved_map {f : Invalidation → Invalidation}
    (moves : ∀ inv : Invalidation, inv.MovesTo (f inv)) (invs : List Invalidation) :
    Moved invs (invs.map f) :=
  List.forall₂_map_right_iff.mpr (List.forall₂_same.mpr fun inv _ => moves inv)

theorem advance_of_new {inv inv' : Invalidation} (fresh : inv.state = .new)
    (still : inv.IsStill inv') : inv.advance inv'.state = inv' := by
  have moved : State.new.advance inv'.state = inv'.state := by cases inv'.state <;> rfl
  rw [still, advance, fresh, moved]

section AdvanceEach
variable {α : Type} (counts : Invalidation → Bool)

theorem advanceEach_nil (invs : List Invalidation) : advanceEach counts invs [] = invs := by
  cases invs <;> rfl

theorem advanceEach_cons_of_not {counts : Invalidation → Bool} {inv : Invalidation}
    (skipped : counts inv = false) (rest : List Invalidation) (states : List State) :
    advanceEach counts (inv :: rest) states = inv :: advanceEach counts rest states := by
  cases states with
  | nil => rw [advanceEach_nil, advanceEach_nil]
  | cons next states => simp only [advanceEach, skipped, Bool.false_eq_true, if_false]

theorem advanceEach_moved (invs : List Invalidation) (states : List State) :
    Moved invs (advanceEach counts invs states) := by
  induction invs generalizing states with
  | nil => exact .nil
  | cons inv rest ih =>
      cases h : counts inv with
      | false =>
          rw [advanceEach_cons_of_not h]
          exact .cons (.refl inv) (ih states)
      | true =>
          cases states with
          | nil =>
              have others := ih []
              rw [advanceEach_nil] at others
              exact .cons (.refl inv) others
          | cons next states =>
              simp only [advanceEach, h, if_true]
              exact .cons (inv.advance_moves next) (ih states)

/-- If there are enough states, and those are terminal, then nothing that counts is left open. -/
theorem advanceEach_terminal {counts : Invalidation → Bool} {invs : List Invalidation}
    {states : List State} (enough : invs.countP counts ≤ states.length)
    (terminal : ∀ state ∈ states, state.isTerminal)
    (others : ∀ inv ∈ invs, counts inv = false → inv.isTerminal) :
    ∀ inv ∈ advanceEach counts invs states, inv.isTerminal := by
  induction invs generalizing states with
  | nil => exact fun _ among => absurd among List.not_mem_nil
  | cons inv rest ih =>
      obtain ⟨head, others⟩ := List.forall_mem_cons.mp others
      cases h : counts inv with
      | false =>
          rw [List.countP_cons_of_neg (by simp [h])] at enough
          rw [advanceEach_cons_of_not h]
          exact List.forall_mem_cons.mpr ⟨head h, ih enough terminal others⟩
      | true =>
          rw [List.countP_cons_of_pos h] at enough
          cases states with
          | nil => cases enough
          | cons next states =>
              obtain ⟨last, terminal⟩ := List.forall_mem_cons.mp terminal
              simp only [advanceEach, h, if_true]
              exact List.forall_mem_cons.mpr ⟨inv.isTerminal_advance last,
                ih (Nat.le_of_succ_le_succ enough) terminal others⟩

theorem advanceEach_still (invs : List Invalidation) (states : List State) :
    List.Forall₂ IsStill invs (advanceEach counts invs states) :=
  (advanceEach_moved counts invs states).imp fun _ _ moves => moves.still

theorem advanceEach_map (items : List α) (g : α → Invalidation) (f : α → State) :
    advanceEach counts (items.map g) ((items.filter fun x => counts (g x)).map f) =
      items.map fun x => if counts (g x) then (g x).advance (f x) else g x := by
  induction items with
  | nil => rfl
  | cons x rest ih =>
      by_cases h : counts (g x)
      · simp only [List.map_cons, List.filter_cons, h, if_true, advanceEach, ih]
      · simp only [List.map_cons, List.filter_cons, h, Bool.false_eq_true, if_false]
        rw [advanceEach_cons_of_not (Bool.eq_false_iff.mpr h), ih]

theorem drop_advanceEach (invs : List Invalidation) (states : List State) (n : Nat) :
    (advanceEach (fun _ => true) invs states).drop n =
      advanceEach (fun _ => true) (invs.drop n) (states.drop n) := by
  induction n generalizing invs states with
  | zero => rfl
  | succ n ih =>
      cases invs with
      | nil => cases states.drop (n + 1) <;> rfl
      | cons inv rest =>
          cases states with
          | nil => exact (advanceEach_nil _ (rest.drop n)).symm
          | cons next states => exact ih rest states

/-- What has moved forward is what its states are reported for. -/
theorem advanceEach_of_moved {invs after : List Invalidation} (moved : Moved invs after) :
    advanceEach (fun _ => true) invs (after.map (·.state)) = after := by
  induction moved with
  | nil => rfl
  | cons moves _ ih =>
      simp only [List.map_cons, advanceEach, if_true]
      rw [moves.advance_eq, ih]

/-- A handler that fails what it was given leaves all of it failed. -/
theorem advanceEach_fail (invs : List Invalidation) :
    advanceEach (fun _ => true) invs ((invs.map fail).map (·.state)) = invs.map fail :=
  advanceEach_of_moved (moved_map (fun inv => inv.advance_moves .failed) invs)

theorem advanceEach_fail_process (invs : List Invalidation) :
    advanceEach (fun _ => true) invs (((invs.map process).map fail).map (·.state)) =
      invs.map fail := by
  have each : (invs.map process).map fail = invs.map fail := by
    rw [List.map_map]
    refine List.map_congr_left fun inv _ => ?_
    obtain ⟨id, kind, expression, state⟩ := inv
    cases state <;> rfl
  rw [each, advanceEach_fail]

/-- New invalidations are moved to whatever states they are given. -/
theorem advanceEach_perm {counts : Invalidation → Bool} {invs after : List Invalidation}
    (related : List.Forall₂ (fun inv inv' => inv.state = .new ∧ inv.IsStill inv')
      (invs.filter counts) after) :
    (advanceEach counts invs (after.map (·.state))).Perm
      (after ++ invs.filter fun inv => !counts inv) := by
  induction invs generalizing after with
  | nil =>
      cases related
      exact .refl _
  | cons inv rest ih =>
      cases h : counts inv with
      | false =>
          rw [List.filter_cons, h, if_neg Bool.false_ne_true] at related
          rw [advanceEach_cons_of_not h, List.filter_cons, h, Bool.not_false, if_pos rfl]
          exact ((ih related).cons inv).trans List.perm_middle.symm
      | true =>
          rw [List.filter_cons, h, if_pos rfl] at related
          cases related with
          | cons first others =>
              obtain ⟨fresh, still⟩ := first
              simp only [List.map_cons, advanceEach, h, if_true, List.filter_cons, Bool.not_true,
                Bool.false_eq_true, if_false, List.cons_append]
              rw [advance_of_new fresh still]
              exact (ih others).cons _

end AdvanceEach
end Invalidation
end CachePurge
