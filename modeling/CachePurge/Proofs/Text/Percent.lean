import CachePurge.Proofs.Tag.Isolation
import CachePurge.Proofs.Text.Ascii

/-!
Percent encoding is undone by decoding if the percent sign is among what is encoded. So texts that
are encoded alike are the same.
-/

namespace CachePurge
namespace Percent

theorem value?_upperDigit (n : Nat) : Hex.value? (upperDigit n) = some (n % 16) := by
  have all : ∀ m < 16, Hex.value? (upperDigit m) = some m := by decide
  have own := all (n % 16) (Nat.mod_lt n (by decide))
  rwa [upperDigit, Hex.digit, Nat.mod_mod] at own

theorem decode_encodeByte (b : UInt8) (rest : List Char) :
    decode (encodeByte b ++ rest) = b :: decode rest := by
  have whole : b.toNat / 16 % 16 * 16 + b.toNat % 16 = b.toNat := by
    have small := b.toNat_lt
    omega
  rw [encodeByte, List.cons_append, List.cons_append, List.cons_append, decode, value?_upperDigit,
    value?_upperDigit]
  simp only [whole, List.nil_append, Nat.toUInt8_eq, UInt8.ofNat_toNat]

theorem decode_encodeBytes (bytes : List UInt8) (rest : List Char) :
    decode (bytes.flatMap encodeByte ++ rest) = bytes ++ decode rest := by
  induction bytes with
  | nil => rfl
  | cons b bytes ih =>
      rw [List.flatMap_cons, List.append_assoc, decode_encodeByte, ih, List.cons_append]

section Encode
variable {set : List Char} (marks : '%' ∈ set)
include marks

theorem decode_encode_append (text rest : List Char) :
    decode (encode set text ++ rest) = text.flatMap String.utf8EncodeChar ++ decode rest := by
  induction text with
  | nil => rfl
  | cons c text ih =>
      rw [encode] at ih ⊢
      rw [List.flatMap_cons, List.append_assoc, List.flatMap_cons, List.append_assoc]
      split
      · rw [decode_encodeBytes, ih]
      · next plain =>
          have other : c ≠ '%' := by
            rintro rfl
            simp [marks] at plain
          rw [List.singleton_append, decode_cons_of_ne other, ih]

theorem decode_encode (text : List Char) :
    decode (encode set text) = text.flatMap String.utf8EncodeChar := by
  have own := decode_encode_append marks text []
  rwa [List.append_nil, decode, List.append_nil] at own

theorem encode_injective : Function.Injective (encode set) := by
  intro text text' same
  have bytes := congrArg decode same
  rw [decode_encode marks, decode_encode marks] at bytes
  have own : utf8 (String.ofList text) = utf8 (String.ofList text') := by
    rw [utf8, utf8, String.toList_ofList, String.toList_ofList, bytes]
  exact String.ofList_inj.mp (utf8_injective own)

end Encode
end Percent
end CachePurge
