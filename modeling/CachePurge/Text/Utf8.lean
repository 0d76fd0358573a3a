/-!
UTF-8: the bytes of a text, and the text of bytes, with a replacement character for each longest
part that no character begins with.
-/

namespace CachePurge

/-- The bytes that a text is sent and hashed as. -/
def utf8 (text : String) : List UInt8 := text.toList.flatMap String.utf8EncodeChar

namespace Utf8

/-- What a lead byte asks for: the bits it gives, how many bytes follow, and the range of the
next one. -/
structure Lead where
  bits : Nat
  tails : Nat
  low : Nat
  high : Nat

def lead? (b : Nat) : Option Lead :=
  if b < 0x80 then some ⟨b, 0, 0x80, 0xbf⟩
  else if 0xc2 ≤ b ∧ b < 0xe0 then some ⟨b - 0xc0, 1, 0x80, 0xbf⟩
  else if b = 0xe0 then some ⟨0, 2, 0xa0, 0xbf⟩
  else if b = 0xed then some ⟨0xd, 2, 0x80, 0x9f⟩
  else if 0xe0 < b ∧ b < 0xf0 then some ⟨b - 0xe0, 2, 0x80, 0xbf⟩
  else if b = 0xf0 then some ⟨0, 3, 0x90, 0xbf⟩
  else if 0xf0 < b ∧ b < 0xf4 then some ⟨b - 0xf0, 3, 0x80, 0xbf⟩
  else if b = 0xf4 then some ⟨4, 3, 0x80, 0x8f⟩
  else none

/-- Reads the bytes that a lead byte asks for, and stops before the first that does not fit. -/
def readTails : (tails : Nat) → (bits low high : Nat) → List UInt8 → Option Char × List UInt8
  | 0, bits, _, _, rest => (some (Char.ofNat bits), rest)
  | _ + 1, _, _, _, [] => (none, [])
  | tails + 1, bits, low, high, b :: rest =>
    if low ≤ b.toNat ∧ b.toNat ≤ high then
      readTails tails (bits * 64 + (b.toNat - 0x80)) 0x80 0xbf rest
    else (none, b :: rest)

/-- The first character, or `none` where there is none, and the bytes after it. -/
def readChar (b : UInt8) (rest : List UInt8) : Option Char × List UInt8 :=
  match lead? b.toNat with
  | none => (none, rest)
  | some l => readTails l.tails l.bits l.low l.high rest

/-- The characters of bytes, `none` where no character begins; `bound` bounds their number. -/
def readChars : (bound : Nat) → List UInt8 → List (Option Char)
  | 0, _ | _, [] => []
  | bound + 1, b :: rest =>
    let (c, rest) := readChar b rest
    c :: readChars bound rest

/-- The text of bytes that are UTF-8 throughout. -/
def decode? (bytes : List UInt8) : Option (List Char) := (readChars bytes.length bytes).mapM id

def decodeLossy (bytes : List UInt8) : List Char :=
  (readChars bytes.length bytes).map (·.getD '\ufffd')

end Utf8
end CachePurge
