import CachePurge.Proofs.Tag.Token
import CachePurge.Proofs.Text.Ascii
import CachePurge.Proofs.Text.Joined
import Mathlib.Algebra.GroupWithZero.Nat
import Mathlib.Data.List.Induction

/-!
Hexadecimal places of a fixed number. What is written is read back, and what is read is what would
be written, but for the letter case.
-/

namespace CachePurge.Hex

theorem value?_of_large {c : Char} (large : 128 ≤ c.toNat) : value? c = none := by
  have above : ∀ top : Char, top.toNat < 128 → ¬c ≤ top := fun top small below =>
    absurd (UInt32.le_iff_toNat_le.mp below) (Nat.not_le_of_lt (Nat.lt_of_lt_of_le small large))
  rw [value?, if_neg (fun both => above '9' (by decide) both.2),
    if_neg (fun both => above 'f' (by decide) both.2),
    if_neg (fun both => above 'F' (by decide) both.2)]

theorem value?_digit : ∀ d < 16, value? (digit d) = some d := by
  decide

theorem value?_toLower (c : Char) : value? c.toLower = value? c := by
  cases Nat.lt_or_ge c.toNat 128 with
  | inl ascii =>
      refine of_forall_ofNat (P := fun c => value? c.toLower = value? c) ?_ ascii
      decide +kernel
  | inr large => rw [toLower_of_large large]

theorem toLower_of_value? {c : Char} {d : Nat} (own : value? c = some d) :
    d < 16 ∧ c.toLower = digit d := by
  cases Nat.lt_or_ge c.toNat 128 with
  | inl ascii =>
      refine of_forall_ofNat
        (P := fun c => ∀ d ∈ value? c, d < 16 ∧ c.toLower = digit d) ?_ ascii d own
      decide +kernel
  | inr large =>
      rw [value?_of_large large] at own
      cases own

theorem value?_eq_some_iff {c : Char} {d : Nat} :
    value? c = some d ↔ d < 16 ∧ c.toLower = digit d := by
  refine ⟨toLower_of_value?, fun ⟨small, lower⟩ => ?_⟩
  rw [← value?_toLower, lower, value?_digit d small]

theorem digit_mod (n : Nat) : digit (n % 16) = digit n := by
  rw [digit, Nat.mod_mod, ← digit]

theorem mem_ofNat {places n : Nat} {c : Char} (inside : c ∈ ofNat places n) :
    c ∈ lowerDigits := by
  induction places generalizing n with
  | zero => cases inside
  | succ places ih =>
      rw [ofNat, List.mem_append, List.mem_singleton] at inside
      rcases inside with inside | rfl
      · exact ih inside
      · exact digit_mem n

theorem map_toLower_of_lower {digits : List Char} (lower : ∀ c ∈ digits, c ∈ lowerDigits) :
    digits.map Char.toLower = digits := by
  have all : (lowerDigits.all fun c => c.toLower == c) = true := by decide
  have same : ∀ c ∈ digits, c.toLower = c := fun c inside =>
    beq_iff_eq.mp (List.all_eq_true.mp all c (lower c inside))
  exact (List.map_congr_left same).trans (List.map_id digits)

/-- Digits write a number if they are those of its places in either letter case. -/
theorem toNat?_eq_some_iff {digits : List Char} {n : Nat} :
    toNat? digits = some n ↔
      digits.map Char.toLower = ofNat digits.length n ∧ n < 16 ^ digits.length := by
  induction digits using List.reverseRecOn generalizing n with
  | nil =>
      change some 0 = some n ↔ [] = [] ∧ n < 1
      rw [Option.some.injEq, Nat.lt_one_iff, eq_comm]
      exact (and_iff_right rfl).symm
  | append_singleton digits c ih =>
      rw [toNat?_append, List.map_append, List.length_append, List.length_singleton, ofNat,
        List.map_singleton]
      constructor
      · intro read
        obtain ⟨front, high, read⟩ := Option.bind_eq_some_iff.mp read
        obtain ⟨d, low, rfl⟩ := Option.map_eq_some_iff.mp read
        obtain ⟨small, lower⟩ := value?_eq_some_iff.mp low
        obtain ⟨same, bound⟩ := ih.mp high
        have quotient : (front * 16 + d) / 16 = front := by omega
        have remainder : (front * 16 + d) % 16 = d := by omega
        refine ⟨?_, by omega⟩
        rw [quotient, ← digit_mod, remainder, same, lower]
      · rintro ⟨same, bound⟩
        obtain ⟨same, lower⟩ := List.append_inj' same rfl
        have high : toNat? digits = some (n / 16) := ih.mpr ⟨same, by omega⟩
        have low : value? c = some (n % 16) := value?_eq_some_iff.mpr
          ⟨Nat.mod_lt n (by decide), (List.cons.inj lower).1.trans (digit_mod n).symm⟩
        rw [high, Option.bind_some, low, Option.map_some, Nat.div_add_mod']

end CachePurge.Hex
