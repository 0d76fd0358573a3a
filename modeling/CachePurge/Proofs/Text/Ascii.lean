import CachePurge.Text.Percent

/-!
Texts in ASCII. Each of their characters is one byte, so they come back from their bytes as they
were, and also from percent encoding if there is no percent sign in them.
-/

namespace CachePurge

theorem of_forall_ofNat {P : Char → Prop} {bound : Nat} (all : ∀ n < bound, P (Char.ofNat n))
    {c : Char} (small : c.toNat < bound) : P c := by
  have own := all c.toNat small
  rwa [Char.ofNat_toNat] at own

theorem mem_of_isDigit {c : Char} (digit : c.isDigit = true) : c ∈ "0123456789".toList := by
  have bounds := Bool.and_eq_true_iff.mp digit
  have low : 48 ≤ c.toNat := UInt32.le_iff_toNat_le.mp (of_decide_eq_true bounds.1)
  have high : c.toNat ≤ 57 := UInt32.le_iff_toNat_le.mp (of_decide_eq_true bounds.2)
  refine of_forall_ofNat (P := fun c => 48 ≤ c.toNat → c ∈ "0123456789".toList) ?_
    (Nat.lt_succ_of_le high) low
  decide

theorem toLower_of_large {c : Char} (large : 128 ≤ c.toNat) : c.toLower = c := by
  refine dif_neg fun between => ?_
  have : c.toNat ≤ 90 := UInt32.le_iff_toNat_le.mp between.2
  omega

theorem utf8EncodeChar_of_lt {c : Char} (ascii : c.toNat < 128) :
    String.utf8EncodeChar c = [c.toNat.toUInt8] := by
  have size : c.utf8Size = 1 := Char.utf8Size_eq_one_iff.mpr (Nat.le_of_lt_succ ascii)
  rw [String.utf8EncodeChar_eq_singleton size]
  rfl

theorem toNat_toUInt8_of_lt {n : Nat} (ascii : n < 128) : n.toUInt8.toNat = n :=
  Nat.mod_eq_of_lt (Nat.lt_trans ascii (by decide))

namespace Utf8

theorem readChar_of_lt {c : Char} (ascii : c.toNat < 128) (rest : List UInt8) :
    readChar c.toNat.toUInt8 rest = (some c, rest) := by
  rw [readChar, toNat_toUInt8_of_lt ascii, lead?, if_pos ascii]
  simp only [readTails, Char.ofNat_toNat]

theorem decode?_ascii {text : List Char} (ascii : ∀ c ∈ text, c.toNat < 128) :
    decode? (text.map fun c => c.toNat.toUInt8) = some text := by
  rw [decode?, List.length_map]
  induction text with
  | nil => rfl
  | cons c rest ih =>
      obtain ⟨first, ascii⟩ := List.forall_mem_cons.mp ascii
      rw [List.map_cons, List.length_cons, readChars, readChar_of_lt first, List.mapM_cons,
        ih ascii]
      rfl

end Utf8

namespace Percent

theorem decode_cons_of_ne {c : Char} (plain : c ≠ '%') (rest : List Char) :
    decode (c :: rest) = String.utf8EncodeChar c ++ decode rest := by
  rw [decode]
  rintro _ _ _ rfl
  exact absurd rfl plain

theorem decode_ascii {text : List Char} (ascii : ∀ c ∈ text, c.toNat < 128 ∧ c ≠ '%') :
    decode text = text.map fun c => c.toNat.toUInt8 := by
  induction text with
  | nil => rfl
  | cons c rest ih =>
      obtain ⟨⟨first, plain⟩, ascii⟩ := List.forall_mem_cons.mp ascii
      rw [decode_cons_of_ne plain, utf8EncodeChar_of_lt first, ih ascii]
      rfl

theorem encode_of_plain {set text : List Char}
    (plain : ∀ c ∈ text, (isControl c || set.contains c) = false) : encode set text = text := by
  induction text with
  | nil => rfl
  | cons c rest ih =>
      obtain ⟨first, plain⟩ := List.forall_mem_cons.mp plain
      have own := ih plain
      rw [encode] at own ⊢
      rw [List.flatMap_cons, first, if_neg Bool.false_ne_true, own]
      rfl

theorem encode_nil_of_printable {text : List Char}
    (printable : ∀ c ∈ text, 32 ≤ c.toNat ∧ c.toNat ≤ 126) : encode [] text = text := by
  apply encode_of_plain
  intro c inside
  obtain ⟨low, high⟩ := printable c inside
  simp only [isControl, List.contains_nil, Bool.or_false, Bool.or_eq_false_iff,
    decide_eq_false_iff_not]
  omega

end Percent
end CachePurge
