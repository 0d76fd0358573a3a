import CachePurge.Host.Ipv4
import CachePurge.Proofs.Text.Joined

/-!
The text of an IPv4 address is read as that address.
-/

namespace CachePurge.Ipv4

/-- The four bytes of an address, highest first. -/
def bytes (address : UInt32) : List Nat :=
  [24, 16, 8, 0].map fun shift => (address.toNat >>> shift) % 256

theorem toText_eq (address : UInt32) :
    toText address = List.intercalate ['.'] ((bytes address).map (Nat.toDigits 10)) := by
  rw [toText, bytes, List.map_map]
  rfl

theorem labels_toText (address : UInt32) :
    labels (toText address) = (bytes address).map (Nat.toDigits 10) := by
  have split : (toText address).splitOn '.' = (bytes address).map (Nat.toDigits 10) := by
    rw [toText_eq, List.splitOn_intercalate]
    · intro label inside
      obtain ⟨n, -, rfl⟩ := List.mem_map.mp inside
      exact dot_not_mem_toDigits n
    · simp [bytes]
  rw [labels, split]
  simp [bytes, Nat.toDigits_ne_nil]

theorem number?_toDigits : ∀ n < 256, number? (Nat.toDigits 10 n) = some n := by
  decide +kernel

theorem ofNumbers_four {a b c d : Nat} (ha : a < 256) (hb : b < 256) (hc : c < 256)
    (hd : d < 256) :
    ofNumbers [a, b, c, d] = some (d + a <<< 24 + b <<< 16 + c <<< 8).toUInt32 := by
  have fit : (decide (255 < a) || (decide (255 < b) || (decide (255 < c) || false))) = false := by
    rw [decide_eq_false (by omega : ¬255 < a), decide_eq_false (by omega : ¬255 < b),
      decide_eq_false (by omega : ¬255 < c)]
    rfl
  have last : ¬1 <<< 8 ≤ d := by omega
  change (if (false || (decide (255 < a) || (decide (255 < b) || (decide (255 < c) || false))) ||
    decide (1 <<< 8 ≤ d)) = true then none
    else some (d + a <<< 24 + b <<< 16 + c <<< 8).toUInt32) = _
  rw [fit, decide_eq_false last]
  rfl

/-- The last number is one byte after three others, so each stands for itself. -/
theorem ofNumbers_bytes (address : UInt32) : ofNumbers (bytes address) = some address := by
  have byte (n : Nat) : n % 256 < 256 := Nat.mod_lt n (by decide)
  have whole : address.toNat >>> 0 % 256 + (address.toNat >>> 24 % 256) <<< 24 +
      (address.toNat >>> 16 % 256) <<< 16 + (address.toNat >>> 8 % 256) <<< 8 = address.toNat := by
    have := address.toNat_lt
    simp only [Nat.shiftRight_eq_div_pow, Nat.shiftLeft_eq]
    omega
  rw [bytes, List.map_cons, List.map_cons, List.map_cons, List.map_cons, List.map_nil,
    ofNumbers_four (byte _) (byte _) (byte _) (byte _), whole]
  exact congrArg some UInt32.ofNat_toNat

theorem parse?_toText (address : UInt32) : parse? (toText address) = some address := by
  have numbers : ((bytes address).map (Nat.toDigits 10)).mapM number? = some (bytes address) := by
    rw [List.mapM_map, mapM_eq_map (g := id), List.map_id]
    intro n inside
    obtain ⟨shift, -, rfl⟩ := List.mem_map.mp inside
    exact number?_toDigits _ (Nat.mod_lt _ (by decide))
  rw [parse?, labels_toText, numbers]
  exact ofNumbers_bytes address

theorem mem_toText {address : UInt32} {c : Char} (inside : c ∈ toText address) :
    c = '.' ∨ c.isDigit = true := by
  rw [toText_eq] at inside
  cases mem_of_mem_intercalate inside with
  | inl dot => exact .inl dot
  | inr found =>
      obtain ⟨label, among, within⟩ := found
      obtain ⟨n, -, rfl⟩ := List.mem_map.mp among
      exact .inr (Nat.isDigit_of_mem_toDigits (by decide) (by decide) within)

end CachePurge.Ipv4
