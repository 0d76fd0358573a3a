import CachePurge.Shared

/-!
What becomes of a shared thing is decided by what is done to it, in order, and by nothing else: not
by which of its references that was done through, nor by what is done to other things.
-/

namespace CachePurge
namespace Shared
variable {α β : Type}

theorem things_eq_get (s : Shared α) (r : s.Reference) :
    s.things[s.place r]? = some (s.get r) :=
  List.getElem?_eq_getElem (s.place_lt r)

@[simp]
theorem things_share (s : Shared α) (thing : α) :
    (s.share thing).things = s.things ++ [thing] := rfl

@[simp]
theorem things_clone (s : Shared α) (r : s.Reference) : (s.clone r).things = s.things := rfl

@[simp]
theorem things_change (s : Shared α) (r : s.Reference) (f : α → α) :
    (s.change r f).things = s.things.modify (s.place r) f := rfl

/-- References are made and things are changed through them. The list is of what was done to the
thing in some place, in order. -/
inductive Uses (act : α → β → α) (place : Nat) (s : Shared α) : List β → Shared α → Prop
  | none : Uses act place s [] s
  | share {deeds : List β} {s' : Shared α} (thing : α) :
      Uses act place s deeds s' → Uses act place s deeds (s'.share thing)
  | clone {deeds : List β} {s' : Shared α} (r : s'.Reference) :
      Uses act place s deeds s' → Uses act place s deeds (s'.clone r)
  | act {deeds : List β} {s' : Shared α} (r : s'.Reference) (deed : β) :
      Uses act place s deeds s' → s'.place r = place →
      Uses act place s (deeds ++ [deed]) (s'.change r (act · deed))
  | elsewhere {deeds : List β} {s' : Shared α} (r : s'.Reference) (deed : β) :
      Uses act place s deeds s' → s'.place r ≠ place →
      Uses act place s deeds (s'.change r (act · deed))

section Uses
variable {act : α → β → α} {place : Nat} {s s' : Shared α} {deeds : List β}

theorem Uses.things (uses : Uses act place s deeds s') {thing : α}
    (at_place : s.things[place]? = some thing) :
    s'.things[place]? = some (deeds.foldl act thing) := by
  induction uses with
  | none => exact at_place
  | share other _ ih =>
      obtain ⟨bound, -⟩ := List.getElem?_eq_some_iff.mp ih
      rw [things_share, List.getElem?_append_left bound, ih]
  | clone r _ ih => rw [things_clone, ih]
  | act r deed _ here ih =>
      rw [things_change, here, List.getElem?_modify_eq, ih, List.foldl_append]
      rfl
  | elsewhere r deed _ there ih =>
      rw [things_change, List.getElem?_modify_ne _ _ there, ih]

/-- All references to a thing find it as what was done to it has left it. -/
theorem Uses.get {r : s.Reference} (uses : Uses act (s.place r) s deeds s') {r' : s'.Reference}
    (same : s'.place r' = s.place r) : s'.get r' = deeds.foldl act (s.get r) := by
  have left := uses.things (s.things_eq_get r)
  rw [← same, s'.things_eq_get r', Option.some_inj] at left
  exact left

end Uses

end Shared
end CachePurge
