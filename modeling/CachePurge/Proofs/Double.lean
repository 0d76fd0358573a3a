import Mathlib

/-!
Products of doubles, cut off after the point. A product has twice the digits of a double and is
rounded; as rounding changes it by at most one half of its last digit, it is cut off to the same
number as the exact product, unless that is less than this below the next one.
-/

namespace CachePurge
namespace Double

open Float.Model Float.Model.UnpackedFloat

/-- An extended mantissa whose last digit has some weight approximates a number: its two further
bits tell how what is left of the number compares to one half of that weight. -/
structure Approximates (weight n : Nat) (em : ExtendedMantissa) (rest : Nat) : Prop where
  whole : n = weight * em.mantissa + rest
  small : rest < weight
  roundBit : em.roundBit = true ↔ weight ≤ 2 * rest
  stickyBit : em.stickyBit = true ↔ rest ≠ 0 ∧ 2 * rest ≠ weight

/-- A number is rounded to a multiple of some weight that is at most one half of it away. -/
def RoundsTo (weight n rounded : Nat) : Prop :=
  2 * (weight * rounded) ≤ 2 * n + weight ∧ 2 * n ≤ 2 * (weight * rounded) + weight

section Approximates
variable {weight n rest : Nat} {em : ExtendedMantissa}

theorem Approximates.shiftRightOne (approximates : Approximates weight n em rest) :
    Approximates (2 * weight) n em.shiftRightOne (weight * (em.mantissa % 2) + rest) := by
  obtain ⟨whole, small, roundBit, stickyBit⟩ := approximates
  have digit := Nat.div_add_mod em.mantissa 2
  constructor
  case whole =>
    conv_lhs => rw [whole, ← digit]
    rw [ExtendedMantissa.shiftRightOne]
    ring
  case small =>
    rcases Nat.mod_two_eq_zero_or_one em.mantissa with even | odd
    · rw [even]; omega
    · rw [odd]; omega
  case roundBit =>
    simp only [ExtendedMantissa.shiftRightOne, bne_iff_ne]
    rcases Nat.mod_two_eq_zero_or_one em.mantissa with even | odd
    · rw [even]; omega
    · rw [odd]; omega
  case stickyBit =>
    simp only [ExtendedMantissa.shiftRightOne, Bool.or_eq_true, roundBit, stickyBit]
    rcases Nat.mod_two_eq_zero_or_one em.mantissa with even | odd
    · rw [even]; omega
    · rw [odd]; omega

theorem approximates_shiftRight (m k : Nat) :
    ∃ rest, Approximates (2 ^ k) m (ExtendedMantissa.mk m false false >>> k) rest := by
  induction k with
  | zero =>
      refine ⟨0, ?_⟩
      constructor
      case whole => exact (Nat.one_mul m).symm
      case small => exact Nat.one_pos
      case roundBit => simp [HShiftRight.hShiftRight, Nat.repeat]
      case stickyBit => simp [HShiftRight.hShiftRight, Nat.repeat]
  | succ k ih =>
      obtain ⟨rest, approximates⟩ := ih
      rw [Nat.pow_succ, Nat.mul_comm]
      exact ⟨_, approximates.shiftRightOne⟩

theorem Approximates.mantissa (approximates : Approximates weight n em rest) :
    em.mantissa = n / weight := by
  have positive : 0 < weight := Nat.zero_lt_of_lt approximates.small
  rw [approximates.whole, Nat.mul_add_div positive, Nat.div_eq_of_lt approximates.small,
    Nat.add_zero]

/-- Of the two multiples around a number the nearer one is taken. -/
theorem Approximates.rounds (approximates : Approximates weight n em rest) :
    RoundsTo weight n em.roundedMantissa ∧
      (em.roundedMantissa = em.mantissa ∨ em.roundedMantissa = em.mantissa + 1) := by
  obtain ⟨whole, small, roundBit, stickyBit⟩ := approximates
  obtain ⟨mantissa, high, low⟩ := em
  simp only [RoundsTo, ExtendedMantissa.roundedMantissa, ExtendedMantissa.accuracy] at *
  have up : weight * (mantissa + 1) = weight * mantissa + weight := Nat.mul_succ _ _
  match high, low with
  | false, false | false, true =>
      simp only [Bool.false_eq_true, false_iff, true_iff] at roundBit stickyBit
      simp only [Accuracy.roundToNearestEven, true_or, and_true]
      omega
  | true, true =>
      simp only [true_iff] at roundBit stickyBit
      simp only [Accuracy.roundToNearestEven, up, or_true, and_true]
      omega
  | true, false =>
      simp only [Bool.false_eq_true, false_iff, true_iff] at roundBit stickyBit
      rcases Nat.mod_two_eq_zero_or_one mantissa with even | odd
      · simp only [Accuracy.roundToNearestEven, even, Nat.add_zero, true_or, and_true]
        omega
      · simp only [Accuracy.roundToNearestEven, odd, up, or_true, and_true]
        omega

end Approximates

theorem log2_eq {m k : Nat} (low : 2 ^ k ≤ m) (high : m < 2 ^ (k + 1)) : m.log2 = k :=
  (Nat.log2_eq_iff (Nat.ne_of_gt (Nat.lt_of_lt_of_le (Nat.two_pow_pos k) low))).mpr ⟨low, high⟩

/-- Digits beyond the fifty-third are shifted out. -/
theorem shiftToTargetExponent_of_log2 {m k : Nat} {e : Int} (size : m.log2 = 52 + k)
    (normal : -1074 ≤ e + k) :
    shiftToTargetExponent Format.binary64 m e .exact =
      (ExtendedMantissa.mk m false false >>> k, e + k) := by
  have target : Format.binary64.targetExponent (totalExponent m e) = e + k := by
    simp only [Format.targetExponent, totalExponent, Format.mantissaBits, Format.minExponent, size]
    omega
  have amount : (e + k - e).toNat = k := by omega
  rw [shiftToTargetExponent, target, shiftToExponent, amount]
  rfl

/-- The mantissa is shifted, rounded and shifted again. -/
theorem roundWithAccuracy_eq {m digits : Nat} {e once twice : Int} {em last : ExtendedMantissa}
    (first : shiftToTargetExponent Format.binary64 m e .exact = (em, once))
    (second : shiftToTargetExponent Format.binary64 em.roundedMantissa once .exact = (last, twice))
    (mantissa : last.mantissa = digits) (positive : 0 < digits) :
    roundWithAccuracy Format.binary64 .positive m e .exact =
      .finite .positive digits twice positive := by
  subst mantissa
  rw [roundWithAccuracy, first]
  dsimp only
  rw [second]
  exact dif_neg (Nat.ne_of_gt positive)

/-- What has as many digits as a double is not rounded. -/
theorem roundWithAccuracy_exact {m : Nat} {e : Int} (size : m.log2 = 52) (normal : -1074 ≤ e)
    (positive : 0 < m) :
    roundWithAccuracy Format.binary64 .positive m e .exact = .finite .positive m e positive := by
  have same := shiftToTargetExponent_of_log2 (k := 0) (e := e) size (by omega)
  rw [Int.natCast_zero, Int.add_zero] at same
  exact roundWithAccuracy_eq same same rfl positive

/-- A double made of a number of at least fifty-three digits: rounding may give it one more digit,
which is shifted out, too. -/
theorem roundWithAccuracy_of_log2 {m k : Nat} {e : Int} (size : m.log2 = 52 + k)
    (normal : -1074 ≤ e + k) :
    ∃ (digits j : Nat) (positive : 0 < digits),
      roundWithAccuracy Format.binary64 .positive m e .exact =
        .finite .positive digits (e + j) positive ∧
      digits.log2 = 52 ∧ k ≤ j ∧ j ≤ k + 1 ∧
      2 * (2 ^ j * digits) ≤ 2 * m + 2 ^ k ∧ 2 * m ≤ 2 * (2 ^ j * digits) + 2 ^ k := by
  have nonzero : m ≠ 0 := by
    rintro rfl
    rw [Nat.log2_zero] at size
    omega
  obtain ⟨low, high⟩ := (Nat.log2_eq_iff nonzero).mp size
  obtain ⟨rest, approximates⟩ := approximates_shiftRight m k
  obtain ⟨⟨below, above⟩, next⟩ := approximates.rounds
  have mantissa := approximates.mantissa
  have first := shiftToTargetExponent_of_log2 size normal
  generalize ExtendedMantissa.mk m false false >>> k = em at *
  have at_least : 2 ^ 52 ≤ em.mantissa := by
    rw [mantissa, Nat.le_div_iff_mul_le (Nat.two_pow_pos k), ← Nat.pow_add]
    exact low
  have at_most : em.mantissa < 2 ^ 53 := by
    rw [mantissa, Nat.div_lt_iff_lt_mul (Nat.two_pow_pos k), ← Nat.pow_add]
    exact Nat.lt_of_lt_of_eq high (by congr 1; omega)
  by_cases fits : em.roundedMantissa < 2 ^ 53
  · have log : em.roundedMantissa.log2 = 52 := log2_eq (by omega) fits
    have second := shiftToTargetExponent_of_log2 (k := 0) (e := e + k) log (by omega)
    have positive : 0 < em.roundedMantissa := by omega
    refine ⟨em.roundedMantissa, k, positive, ?_, log, Nat.le_refl k, Nat.le_succ k, below, above⟩
    rw [Int.natCast_zero, Int.add_zero] at second
    exact roundWithAccuracy_eq first second rfl positive
  · have carry : em.roundedMantissa = 2 ^ 53 := by omega
    have log : em.roundedMantissa.log2 = 52 + 1 := by rw [carry]; exact Nat.log2_two_pow
    have second := shiftToTargetExponent_of_log2 (k := 1) (e := e + k) log (by omega)
    have half : (ExtendedMantissa.mk em.roundedMantissa false false >>> 1).mantissa = 2 ^ 52 := by
      rw [carry]
      rfl
    have double : 2 ^ (k + 1) * 2 ^ 52 = 2 ^ k * 2 ^ 53 := by ring
    rw [carry] at below above
    refine ⟨2 ^ 52, k + 1, by decide, ?_, Nat.log2_two_pow, Nat.le_succ k, Nat.le_refl _, ?_, ?_⟩
    · rw [Int.natCast_add, ← Int.add_assoc]
      exact roundWithAccuracy_eq first second half _
    · rwa [double]
    · rwa [double]

theorem ofBitVec_unpackSign (sign : Sign) (exponent : BitVec 11) (mantissa : BitVec 52) :
    Sign.ofBitVec (unpackSign (packComponents Format.binary64 sign exponent mantissa)) = sign := by
  simp only [unpackSign, packComponents, BitVec.extractLsb]
  rw [BitVec.extractLsb'_append_eq_of_le (by omega), BitVec.extractLsb'_append_eq_of_le (by omega)]
  cases sign <;> rfl

/-- The bits of a double of fifty-three digits give it back. -/
theorem unpack_pack {m : Nat} {e : Int} (size : m.log2 = 52) (normal : -1074 ≤ e)
    (small : e ≤ 971) (positive : 0 < m) :
    UnpackedFloat.unpack Format.binary64
      (UnpackedFloat.pack Format.binary64 (.finite .positive m e positive)) =
        .finite .positive m e positive := by
  obtain ⟨low, high⟩ := (Nat.log2_eq_iff (Nat.ne_of_gt positive)).mp size
  obtain ⟨biased, exponent⟩ := Int.eq_ofNat_of_zero_le (a := e + 1075) (by omega)
  have bias : (e + Format.binary64.exponentBias +
      Format.binary64.mantissaBitsWithoutImplicit).toNat = biased := by
    simp only [Format.exponentBias]
    omega
  have stored : (BitVec.ofNat 11 biased).toNat = biased := by
    rw [BitVec.toNat_ofNat]
    exact Nat.mod_eq_of_lt (by omega)
  have digits : (1#1 ++ BitVec.ofNat 52 m).toNat = m := by
    rw [BitVec.toNat_append, ← Nat.shiftLeft_add_eq_or_of_lt (BitVec.ofNat 52 m).isLt,
      BitVec.toNat_ofNat, Nat.shiftLeft_eq, BitVec.toNat_ofNat]
    omega
  have finite : BitVec.ofNat 11 biased ≠ -1#11 := by
    intro same
    have eq := congrArg BitVec.toNat same
    rw [stored] at eq
    simp only [BitVec.reduceNeg, BitVec.reduceToNat] at eq
    omega
  have usual : BitVec.ofNat 11 biased ≠ 0#11 := by
    intro same
    have eq := congrArg BitVec.toNat same
    rw [stored, BitVec.toNat_zero] at eq
    omega
  have packed : UnpackedFloat.pack Format.binary64 (.finite .positive m e positive) =
      packComponents Format.binary64 .positive (BitVec.ofNat 11 biased) (BitVec.ofNat 52 m) := by
    rw [UnpackedFloat.pack, bias, size]
    dsimp only
    rw [if_neg (by omega), if_pos (by decide)]
  have back : (biased : Int) - (Format.binary64.exponentBias + (52 : Nat)) = e := by
    simp only [Format.exponentBias]
    omega
  rw [packed, UnpackedFloat.unpack]
  simp only [unpackMantissa_packComponents, unpackExponent_packComponents, ofBitVec_unpackSign]
  rw [if_neg finite, if_neg usual]
  simp only [digits, stored, back]

/-- A number of at most fifty-three digits is a double. -/
theorem ofNat_eq {n : Nat} (positive : 0 < n) (few : n.log2 ≤ 52) :
    ∃ nonzero, UnpackedFloat.ofNat Format.binary64 n =
        .finite .positive (n * 2 ^ (52 - n.log2)) (n.log2 - 52 : Int) nonzero ∧
      (n * 2 ^ (52 - n.log2)).log2 = 52 := by
  obtain ⟨low, high⟩ := (Nat.log2_eq_iff (Nat.ne_of_gt positive)).mp rfl
  have size : (n * 2 ^ (52 - n.log2)).log2 = 52 := by
    refine log2_eq ?_ ?_
    · refine Nat.le_trans ?_ (Nat.mul_le_mul_right _ low)
      rw [← Nat.pow_add, Nat.add_sub_cancel' few]
    · refine Nat.lt_of_lt_of_le (Nat.mul_lt_mul_of_pos_right high (Nat.two_pow_pos _)) ?_
      rw [← Nat.pow_add, Nat.add_right_comm, Nat.add_sub_cancel' few]
  have nonzero : 0 < n * 2 ^ (52 - n.log2) := Nat.mul_pos positive (Nat.two_pow_pos _)
  refine ⟨nonzero, ?_, size⟩
  have sign : compare (n : Int) 0 = .gt := compare_gt_iff_gt.mpr (Int.natCast_pos.mpr positive)
  have target : Format.binary64.targetExponent (totalExponent n 0) = n.log2 - 52 := by
    simp only [Format.targetExponent, totalExponent, Format.mantissaBits, Format.minExponent]
    omega
  rw [UnpackedFloat.ofNat, UnpackedFloat.ofInt, UnpackedFloat.normalize, sign]
  dsimp only
  have amount : (0 - ((n.log2 : Int) - 52)).toNat = 52 - n.log2 := by omega
  have exponent : (0 : Int) - (52 - n.log2 : Nat) = n.log2 - 52 := by omega
  rw [UnpackedFloat.round, Int.toNat_natCast, target, decreaseExponent, amount, exponent,
    Nat.shiftLeft_eq]
  exact roundWithAccuracy_exact size (by omega) nonzero

/-- A positive double with digits after the point is cut off to what is before it. -/
theorem toUInt64_eq {digits d : Nat} {positive : 0 < digits} (fits : digits / 2 ^ d < UInt64.size) :
    (UnpackedFloat.toUInt64 (.finite .positive digits (-d) positive)).toNat = digits / 2 ^ d := by
  have none : (-(d : Int) - 0).toNat = 0 := by omega
  have all : (0 - -(d : Int)).toNat = d := by omega
  have whole : UnpackedFloat.roundToInt .positive digits (-d) = (digits / 2 ^ d : Nat) := by
    obtain ⟨rest, approximates⟩ := approximates_shiftRight digits d
    rw [← approximates.mantissa, roundToInt, decreaseExponent, none]
    simp only [Int.natCast_zero, Int.sub_zero, Nat.shiftLeft_zero]
    rw [shiftToExponent, all]
    rfl
  rw [UnpackedFloat.toUInt64, UnpackedFloat.toInt, whole, Int.toNat_natCast, UInt64.ofNatClamp,
    dif_pos fits, UInt64.toNat_ofNatLT]

section Product
variable {n m quotient : Nat}

/-- What the digits of a rounded product are cut off to, if the exact one is not too close to the
next number. -/
theorem div_two_pow_eq {digits product d j k : Nat} (low : 52 ≤ k) (high : k ≤ 53) (next : k ≤ j)
    (below : 2 * (2 ^ j * digits) ≤ 2 * product + 2 ^ k)
    (above : 2 * product ≤ 2 * (2 ^ j * digits) + 2 ^ k)
    (lower : 4 * (quotient * 2 ^ (d + j)) < 4 * product + 2 ^ 53)
    (upper : product + 2 ^ 52 < (quotient + 1) * 2 ^ (d + j)) :
    digits / 2 ^ d = quotient := by
  have weight : 2 ^ 52 ≤ 2 ^ k := Nat.pow_le_pow_right (by decide) low
  have weight' : 2 ^ k ≤ 2 ^ 53 := Nat.pow_le_pow_right (by decide) high
  have last : 2 ^ k ≤ 2 ^ j := Nat.pow_le_pow_right (by decide) next
  have split (q : Nat) : q * 2 ^ (d + j) = 2 ^ j * (q * 2 ^ d) := by ring
  rw [split] at lower upper
  refine Nat.div_eq_of_lt_le (Nat.le_of_lt_succ ?_) ?_
  · refine Nat.lt_of_mul_lt_mul_left (a := 2 ^ j) ?_
    rw [Nat.mul_succ]
    omega
  · refine Nat.lt_of_mul_lt_mul_left (a := 2 ^ j) ?_
    omega

/-- The product of two doubles has twice as many digits, or one less. -/
theorem log2_mul {a b : Nat} (size : a.log2 = 52) (size' : b.log2 = 52) :
    ∃ k, (a * b).log2 = 52 + k ∧ 52 ≤ k ∧ k ≤ 53 := by
  have nonzero {x : Nat} (size : x.log2 = 52) : x ≠ 0 := by
    rintro rfl
    rw [Nat.log2_zero] at size
    omega
  obtain ⟨low, high⟩ := (Nat.log2_eq_iff (nonzero size)).mp size
  obtain ⟨low', high'⟩ := (Nat.log2_eq_iff (nonzero size')).mp size'
  have product := Nat.mul_ne_zero (nonzero size) (nonzero size')
  have at_least : 104 ≤ (a * b).log2 :=
    (Nat.le_log2 product).mpr (Nat.le_trans (by decide) (Nat.mul_le_mul low low'))
  have at_most : (a * b).log2 < 106 :=
    (Nat.log2_lt product).mpr (Nat.lt_of_lt_of_le (Nat.mul_lt_mul'' high high') (by decide))
  exact ⟨(a * b).log2 - 52, by omega, by omega, by omega⟩

/-- A number times a double between one half and one is cut off to some number, if the exact product
is at least that, up to a quarter of the last digit, and by one digit less than the next one. -/
theorem toUInt64_mul {share : Float} {positive : 0 < m}
    (unpacked : share.toModel.unpack = .finite .positive m (-53) positive) (size : m.log2 = 52)
    (some : 0 < n) (few : n < 2 ^ 50)
    (lower : 4 * (quotient * 2 ^ 53) ≤ 4 * (n * m) + n)
    (upper : n * m + n < (quotient + 1) * 2 ^ 53) :
    (n.toUInt64.toFloat * share).toUInt64.toNat = quotient := by
  have same : n.toUInt64.toNat = n := by
    rw [Nat.toUInt64_eq, UInt64.toNat_ofNat_of_lt']
    exact few.trans (by decide)
  have short : n.log2 < 50 := (Nat.log2_lt (Nat.ne_of_gt some)).mpr few
  obtain ⟨nonzero, number, number_size⟩ := ofNat_eq some (by omega)
  obtain ⟨number_low, number_high⟩ := (Nat.log2_eq_iff (Nat.ne_of_gt nonzero)).mp number_size
  obtain ⟨k, product_size, low, high⟩ := log2_mul number_size size
  obtain ⟨digits, j, digits_nonzero, rounded, digits_size, next, at_most, below, above⟩ :=
    roundWithAccuracy_of_log2 (e := n.log2 - 52 + -53) product_size (by omega)
  obtain ⟨d, point⟩ := Nat.exists_eq_add_of_le (show j ≤ 105 - n.log2 by omega)
  have exponent : (n.log2 : Int) - 52 + -53 + j = -d := by omega
  have cut : digits / 2 ^ d = quotient := by
    have weight (q : Nat) : q * 2 ^ (d + j) = q * 2 ^ 53 * 2 ^ (52 - n.log2) := by
      rw [Nat.mul_assoc, ← Nat.pow_add]
      congr 2
      omega
    have scaled : n * m * 2 ^ (52 - n.log2) = n * 2 ^ (52 - n.log2) * m := by ring
    have lower' := Nat.mul_le_mul_right (2 ^ (52 - n.log2)) lower
    have upper' := Nat.mul_lt_mul_of_pos_right upper (Nat.two_pow_pos (52 - n.log2))
    refine div_two_pow_eq low high next below above ?_ ?_
    · rw [weight]
      rw [Nat.add_mul, Nat.mul_assoc, Nat.mul_assoc 4 (n * m), scaled] at lower'
      omega
    · rw [weight]
      rw [Nat.add_mul, scaled] at upper'
      omega
  have fits : digits / 2 ^ d < UInt64.size := by
    have few_digits := (Nat.log2_eq_iff (Nat.ne_of_gt digits_nonzero)).mp digits_size
    exact Nat.lt_of_le_of_lt (Nat.div_le_self _ _) (few_digits.2.trans (by decide))
  have steps : (n.toUInt64.toFloat * share).toUInt64 =
      UnpackedFloat.toUInt64 (UnpackedFloat.unpack Format.binary64 (UnpackedFloat.pack
        Format.binary64 (UnpackedFloat.mul Format.binary64 (UnpackedFloat.unpack Format.binary64
          (UnpackedFloat.pack Format.binary64
            (UnpackedFloat.ofNat Format.binary64 n.toUInt64.toNat))) share.toModel.unpack))) := rfl
  have product : UnpackedFloat.mul Format.binary64
      (.finite .positive (n * 2 ^ (52 - n.log2)) (n.log2 - 52) nonzero)
      (.finite .positive m (-53) positive) = .finite .positive digits (-d) digits_nonzero := by
    rw [← exponent, ← rounded]
    rfl
  rw [steps, same, number, unpack_pack number_size (by omega) (by omega), unpacked, product,
    unpack_pack digits_size (by omega) (by omega), toUInt64_eq fits, cut]

end Product

end Double
end CachePurge
