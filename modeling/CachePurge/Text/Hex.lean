/-!
Lower-case hexadecimal text, and its reading in either letter case.
-/

namespace CachePurge.Hex

/-- The digit of the last hexadecimal place of a number. -/
def digit (n : Nat) : Char :=
  if n % 16 < 10 then Char.ofNat (48 + n % 16) else Char.ofNat (87 + n % 16)

def value? (c : Char) : Option Nat :=
  if '0' ≤ c ∧ c ≤ '9' then some (c.toNat - 48)
  else if 'a' ≤ c ∧ c ≤ 'f' then some (c.toNat - 87)
  else if 'A' ≤ c ∧ c ≤ 'F' then some (c.toNat - 55)
  else none

/-- Two digits a byte, high place first. -/
def encode (bytes : List UInt8) : List Char :=
  bytes.flatMap fun b => [digit (b.toNat / 16), digit b.toNat]

/-- The last `places` hexadecimal places of a number. -/
def ofNat : (places : Nat) → Nat → List Char
  | 0, _ => []
  | places + 1, n => ofNat places (n / 16) ++ [digit n]

/-- The number that the digits write; any other character refuses. -/
def toNat? (digits : List Char) : Option Nat :=
  digits.foldl (fun total c => total.bind fun n => (value? c).map (n * 16 + ·)) (some 0)

def isDigit (c : Char) : Bool := (value? c).isSome

@[simp] theorem length_encode (bytes : List UInt8) : (encode bytes).length = 2 * bytes.length := by
  induction bytes with
  | nil => rfl
  | cons b r ih =>
    simp only [encode, List.flatMap_cons, List.length_append, List.length_cons] at ih ⊢
    simp only [List.length_nil]
    omega

@[simp] theorem length_ofNat (places n : Nat) : (ofNat places n).length = places := by
  induction places generalizing n with
  | zero => rfl
  | succ places ih => simp [ofNat, ih]

end CachePurge.Hex
