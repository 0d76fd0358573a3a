import CachePurge.Text.Hex

/-!
IPv4 addresses. A host name whose last label is a number writes an address of up to four numbers,
each decimal, octal after `0` or hexadecimal after `0x`, of which the last fills the bytes that are
left.
-/

namespace CachePurge.Ipv4

/-- A number that fits no 32 bits is one all the same. -/
inductive Part where
  | value (n : Nat)
  | tooLarge

def ofDigits (base : Nat) (digits : List Char) : Option Part :=
  if digits.all fun c => (Hex.value? c).any (· < base) then
    let n := digits.foldl (fun n c => n * base + (Hex.value? c).getD 0) 0
    some (if n < UInt32.size then .value n else .tooLarge)
  else none

def part? : List Char → Option Part
  | [] => none
  | '0' :: 'x' :: digits | '0' :: 'X' :: digits => ofDigits 16 digits
  | '0' :: c :: digits => ofDigits 8 (c :: digits)
  | digits => ofDigits 10 digits

/-- The labels of a name without the empty one after a last dot. -/
def labels (name : List Char) : List (List Char) :=
  let parts := name.splitOn '.'
  if 1 < parts.length && parts.getLast?.any (·.isEmpty) then parts.dropLast else parts

/-- Whether a name has to be an address. -/
def endsInNumber (name : List Char) : Bool :=
  (labels name).getLast?.any fun last =>
    !last.isEmpty && last.all (fun c => '0' ≤ c && c ≤ '9') || (part? last).isSome

/-- The address of some numbers, the last of which fills what the others leave. -/
def ofNumbers (numbers : List Nat) : Option UInt32 :=
  match numbers.getLast? with
  | none => none
  | some last =>
    let heads := numbers.dropLast
    if 3 < heads.length || heads.any (255 < ·) || 1 <<< (8 * (4 - heads.length)) ≤ last then none
    else
      let place (total : Nat) (number : Nat × Nat) := total + number.1 <<< (8 * (3 - number.2))
      some (heads.zipIdx.foldl place last).toUInt32

/-- The number of a label, if it is one that fits. -/
def number? (label : List Char) : Option Nat :=
  match part? label with
  | some (.value n) => some n
  | _ => none

def parse? (name : List Char) : Option UInt32 := ((labels name).mapM number?).bind ofNumbers

def toText (address : UInt32) : List Char :=
  List.intercalate ['.'] <| [24, 16, 8, 0].map fun shift =>
    Nat.toDigits 10 ((address.toNat >>> shift) % 256)

end CachePurge.Ipv4
