import CachePurge.Tag

/-!
Grouping cuts a list into consecutive runs: nothing is lost, no run is empty, and none is longer
than the size.
-/

namespace CachePurge

variable {α β : Type}

theorem groupsOf_nil (size : Nat) : groupsOf size ([] : List α) = [] := by
  rw [groupsOf]

theorem groupsOf_cons (size : Nat) (x : α) (rest : List α) :
    groupsOf size (x :: rest) =
      (x :: rest.take (size - 1)) :: groupsOf size (rest.drop (size - 1)) := by
  rw [groupsOf]

theorem groupsOf_map (f : α → β) (size : Nat) (xs : List α) :
    groupsOf size (xs.map f) = (groupsOf size xs).map (List.map f) := by
  induction xs using groupsOf.induct size with
  | case1 => simp only [List.map_nil, groupsOf_nil]
  | case2 x rest ih =>
      simp only [List.map_cons, groupsOf_cons, ← List.map_take, ← List.map_drop, ih]

theorem flatten_groupsOf (size : Nat) (xs : List α) : (groupsOf size xs).flatten = xs := by
  induction xs using groupsOf.induct size with
  | case1 => simp only [groupsOf_nil, List.flatten_nil]
  | case2 x rest ih =>
      simp only [groupsOf_cons, List.flatten_cons, ih, List.cons_append, List.take_append_drop]

theorem groupsOf_eq_nil_iff {size : Nat} {xs : List α} : groupsOf size xs = [] ↔ xs = [] := by
  constructor
  · intro none
    rw [← flatten_groupsOf size xs, none, List.flatten_nil]
  · rintro rfl
    exact groupsOf_nil size

/-- Every run but the last one is as long as the size says. -/
theorem length_of_groupsOf {size : Nat} {xs : List α} {i : Nat} {group : List α}
    (at_i : (groupsOf size xs)[i]? = some group) :
    group ≠ [] ∧ group.length ≤ max size 1 ∧
      (i + 1 < (groupsOf size xs).length → group.length = max size 1) := by
  induction xs using groupsOf.induct size generalizing i with
  | case1 =>
      rw [groupsOf_nil] at at_i
      cases at_i
  | case2 x rest ih =>
      rw [groupsOf_cons] at at_i ⊢
      cases i with
      | succ i =>
          obtain ⟨some_, short, full⟩ := ih at_i
          exact ⟨some_, short, fun more => full (Nat.lt_of_succ_lt_succ more)⟩
      | zero =>
          obtain rfl := Option.some.inj at_i
          have length : (x :: rest.take (size - 1)).length = min (size - 1) rest.length + 1 := by
            rw [List.length_cons, List.length_take]
          refine ⟨List.cons_ne_nil _ _, by omega, fun more => ?_⟩
          have left : rest.drop (size - 1) ≠ [] := by
            intro none
            rw [none, groupsOf_nil] at more
            exact absurd more (Nat.lt_irrefl 1)
          have beyond : size - 1 < rest.length := by
            refine Nat.lt_of_not_le fun all => left (List.drop_eq_nil_of_le all)
          omega

/-- There are as many runs as the size goes into the list, rounded up. -/
theorem length_groupsOf (size : Nat) (xs : List α) :
    (groupsOf size xs).length = (xs.length + (max size 1 - 1)) / max size 1 := by
  induction xs using groupsOf.induct size with
  | case1 =>
      rw [groupsOf_nil, List.length_nil, List.length_nil, Nat.div_eq_of_lt (by omega)]
  | case2 x rest ih =>
      have more : rest.length + 1 + (max size 1 - 1) = rest.length + max size 1 := by omega
      rw [groupsOf_cons, List.length_cons, ih, List.length_cons, List.length_drop, more,
        Nat.add_div_right _ (by omega)]
      rcases Nat.lt_or_ge rest.length (size - 1) with short | long
      · rw [Nat.div_eq_of_lt (by omega), Nat.div_eq_of_lt (by omega)]
      · have whole : rest.length - (size - 1) + (max size 1 - 1) = rest.length := by omega
        rw [whole]

end CachePurge
