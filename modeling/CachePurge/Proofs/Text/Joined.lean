import CachePurge.Text.Hex

/-!
Texts put together of smaller ones: labels with a mark between each two, and numbers in digits.
-/

namespace CachePurge

theorem mem_of_mem_intercalate {α : Type} {mark : α} {labels : List (List α)} {c : α}
    (inside : c ∈ List.intercalate [mark] labels) : c = mark ∨ ∃ label ∈ labels, c ∈ label := by
  induction labels with
  | nil => exact absurd inside List.not_mem_nil
  | cons label rest ih =>
      cases rest with
      | nil =>
          rw [List.intercalate_singleton] at inside
          exact .inr ⟨label, List.mem_singleton_self label, inside⟩
      | cons next rest =>
          rw [List.intercalate_cons_cons, List.mem_append, List.mem_append,
            List.mem_singleton] at inside
          rcases inside with (own | between) | later
          · exact .inr ⟨label, List.mem_cons_self, own⟩
          · exact .inl between
          · obtain between | ⟨other, among, own⟩ := ih later
            · exact .inl between
            · exact .inr ⟨other, List.mem_cons_of_mem label among, own⟩

theorem mem_intercalate_of_mem {α : Type} {mark : α} {labels : List (List α)} {label : List α}
    {c : α} (among : label ∈ labels) (inside : c ∈ label) :
    c ∈ List.intercalate [mark] labels := by
  induction labels with
  | nil => exact absurd among List.not_mem_nil
  | cons first rest ih =>
      cases rest with
      | nil =>
          obtain rfl := List.mem_singleton.mp among
          rwa [List.intercalate_singleton]
      | cons next rest =>
          rw [List.intercalate_cons_cons, List.append_assoc]
          cases List.mem_cons.mp among with
          | inl same =>
              subst same
              exact List.mem_append_left _ inside
          | inr later => exact List.mem_append_right _ (List.mem_append_right _ (ih later))

theorem mem_of_mem_splitOn {α : Type} [BEq α] [LawfulBEq α] {mark : α} {text label : List α}
    (among : label ∈ text.splitOn mark) {c : α} (inside : c ∈ label) : c ∈ text := by
  have joined : c ∈ List.intercalate [mark] (text.splitOn mark) :=
    mem_intercalate_of_mem among inside
  rwa [List.intercalate_splitOn] at joined

theorem not_mem_of_mem_splitOn {α : Type} [BEq α] [LawfulBEq α] {mark : α} {text label : List α}
    (among : label ∈ text.splitOn mark) : mark ∉ label := by
  induction text generalizing label with
  | nil =>
      rw [List.splitOn_nil, List.mem_singleton] at among
      exact among ▸ List.not_mem_nil
  | cons c text ih =>
      rw [List.splitOn_cons_eq_if_modifyHead] at among
      split at among
      · rcases List.mem_cons.mp among with rfl | among
        · exact List.not_mem_nil
        · exact ih among
      · next other =>
          cases split : text.splitOn mark with
          | nil => exact absurd split (List.splitOn_ne_nil _ _)
          | cons first rest =>
              rw [split] at ih among
              rcases List.mem_cons.mp among with rfl | among
              · rw [List.mem_cons, not_or]
                exact ⟨fun same => other (beq_iff_eq.mpr same.symm), ih List.mem_cons_self⟩
              · exact ih (List.mem_cons_of_mem _ among)

theorem map_intercalate {α β : Type} (f : α → β) (mark : α) (labels : List (List α)) :
    (List.intercalate [mark] labels).map f =
      List.intercalate [f mark] (labels.map (List.map f)) := by
  induction labels with
  | nil => rfl
  | cons label rest ih =>
      cases rest with
      | nil => rw [List.map_singleton, List.intercalate_singleton, List.intercalate_singleton]
      | cons next rest =>
          rw [List.intercalate_cons_cons, List.map_append, List.map_append, ih, List.map_singleton]
          exact List.intercalate_cons_cons.symm

theorem mapM_eq_map {α β : Type} {f : α → Option β} {g : α → β} {parts : List α}
    (each : ∀ part ∈ parts, f part = some (g part)) : parts.mapM f = some (parts.map g) := by
  induction parts with
  | nil => rfl
  | cons part rest ih =>
      obtain ⟨first, each⟩ := List.forall_mem_cons.mp each
      rw [List.mapM_cons, first, ih each]
      rfl

theorem mem_of_mapM_eq_some {α β : Type} {f : α → Option β} {parts : List α} {all : List β}
    (each : parts.mapM f = some all) :
    (∀ part ∈ parts, ∃ one ∈ all, f part = some one) ∧
      ∀ one ∈ all, ∃ part ∈ parts, f part = some one := by
  induction parts generalizing all with
  | nil =>
      obtain rfl := Option.some.inj each
      exact ⟨nofun, nofun⟩
  | cons part rest ih =>
      rw [List.mapM_cons] at each
      obtain ⟨one, own, each⟩ := Option.bind_eq_some_iff.mp each
      obtain ⟨others, later, each⟩ := Option.bind_eq_some_iff.mp each
      obtain rfl := Option.some.inj each
      obtain ⟨forth, back⟩ := ih later
      refine ⟨fun x among => ?_, fun y among => ?_⟩
      · cases List.mem_cons.mp among with
        | inl same =>
            subst same
            exact ⟨one, List.mem_cons_self, own⟩
        | inr among =>
            obtain ⟨y, inside, own⟩ := forth x among
            exact ⟨y, List.mem_cons_of_mem one inside, own⟩
      · cases List.mem_cons.mp among with
        | inl same =>
            subst same
            exact ⟨part, List.mem_cons_self, own⟩
        | inr among =>
            obtain ⟨x, inside, own⟩ := back y among
            exact ⟨x, List.mem_cons_of_mem part inside, own⟩

theorem dot_not_mem_toDigits (n : Nat) : '.' ∉ Nat.toDigits 10 n := by
  intro inside
  exact absurd (Nat.isDigit_of_mem_toDigits (by decide) (by decide) inside) (by decide)

namespace Hex

theorem value?_digitChar : ∀ n < 16, value? n.digitChar = some n := by
  decide

theorem toDigits_cases (n : Nat) : Nat.toDigits 16 n = [n.digitChar] ∧ n < 16 ∨
    Nat.toDigits 16 n = Nat.toDigits 16 (n / 16) ++ [(n % 16).digitChar] ∧ 16 ≤ n := by
  cases Nat.lt_or_ge n 16 with
  | inl small => exact .inl ⟨Nat.toDigits_of_lt_base small, small⟩
  | inr large => exact .inr ⟨Nat.toDigits_of_base_le (by decide) large, large⟩

theorem toNat?_append (digits : List Char) (c : Char) :
    toNat? (digits ++ [c]) = (toNat? digits).bind fun n => (value? c).map (n * 16 + ·) := by
  rw [toNat?, List.foldl_append]
  rfl

theorem toNat?_toDigits (n : Nat) : toNat? (Nat.toDigits 16 n) = some n := by
  induction n using Nat.strongRecOn with
  | ind n ih =>
      cases toDigits_cases n with
      | inl found =>
          obtain ⟨digits, small⟩ := found
          rw [digits, toNat?, List.foldl_cons, List.foldl_nil]
          change (value? n.digitChar).map (0 * 16 + ·) = some n
          rw [value?_digitChar n small, Option.map_some, Nat.zero_mul, Nat.zero_add]
      | inr found =>
          obtain ⟨digits, large⟩ := found
          rw [digits, toNat?_append, ih (n / 16) (by omega), Option.bind_some,
            value?_digitChar (n % 16) (Nat.mod_lt n (by decide)), Option.map_some, Nat.div_add_mod']

theorem isDigit_of_mem_toDigits {n : Nat} {c : Char} (inside : c ∈ Nat.toDigits 16 n) :
    isDigit c = true := by
  induction n using Nat.strongRecOn with
  | ind n ih =>
      cases toDigits_cases n with
      | inl found =>
          obtain ⟨digits, small⟩ := found
          rw [digits, List.mem_singleton] at inside
          rw [inside, isDigit, value?_digitChar n small]
          rfl
      | inr found =>
          obtain ⟨digits, large⟩ := found
          rw [digits, List.mem_append, List.mem_singleton] at inside
          cases inside with
          | inl inside => exact ih (n / 16) (by omega) inside
          | inr same =>
              subst same
              rw [isDigit, value?_digitChar (n % 16) (Nat.mod_lt n (by decide))]
              rfl

end Hex
end CachePurge
