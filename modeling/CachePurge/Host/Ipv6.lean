import CachePurge.Text.Hex

/-!
IPv6 addresses: eight groups of sixteen bits, of which `::` stands for the zeros of one or more.
The last two groups may be written as four decimal numbers.
-/

namespace CachePurge

abbrev Ipv6 := Vector UInt16 8

namespace Ipv6

def group? (digits : List Char) : Option Nat :=
  if digits.isEmpty || 4 < digits.length then none else Hex.toNat? digits

/-- A decimal number below 256 without a leading zero. -/
def byte? (digits : List Char) : Option Nat :=
  if digits.isEmpty || 3 < digits.length || !digits.all (fun c => '0' ≤ c && c ≤ '9') then none
  else if digits.head? == some '0' && 1 < digits.length then none
  else (digits.foldl (fun n c => n * 10 + (c.toNat - 48)) 0 |> fun n =>
    if n < 256 then some n else none)

def quad? (text : List Char) : Option (List Nat) := do
  let bytes ← (text.splitOn '.').mapM byte?
  match bytes with
  | [a, b, c, d] => return [a * 256 + b, c * 256 + d]
  | _ => none

/-- Groups with a colon between each two; four decimal numbers may only come last. -/
def pieces? : List (List Char) → Option (List Nat)
  | [] => some []
  | [last] => if last.contains '.' then quad? last else (group? last).map ([·])
  | piece :: rest => do return (← group? piece) :: (← pieces? rest)

def groups? (text : List Char) : Option (List Nat) :=
  if text.isEmpty then some [] else pieces? (text.splitOn ':')

/-- The text before the first `::` and the text after it. -/
def splitElision : List Char → Option (List Char × List Char)
  | ':' :: ':' :: rest => some ([], rest)
  | c :: rest => (splitElision rest).map fun (before, after) => (c :: before, after)
  | [] => none

def allGroups? (text : List Char) : Option (List Nat) :=
  match splitElision text with
  | none => groups? text
  | some (before, after) => do
    if before.contains '.' then none
    let front ← groups? before
    let back ← groups? after
    if 7 < front.length + back.length then none
    return front ++ List.replicate (8 - front.length - back.length) 0 ++ back

def parse? (text : List Char) : Option Ipv6 := do
  let groups ← allGroups? text
  if h : groups.length = 8 then
    return ⟨(groups.map Nat.toUInt16).toArray, by simp [h]⟩
  else none

/-- Runs of zeros as their first position and length. -/
def zeroRuns : (position : Nat) → List UInt16 → List (Nat × Nat)
  | _, [] => []
  | i, g :: rest =>
    let run := ((g :: rest).takeWhile (· == 0)).length
    (i, run) :: zeroRuns (i + 1) rest

/-- The first longest run of at least two zeros. -/
def elided (address : Ipv6) : Option (Nat × Nat) :=
  (zeroRuns 0 address.toList).foldl (fun best run =>
    if run.2 < 2 then best
    else match best with
      | none => some run
      | some b => if b.2 < run.2 then some run else best) none

def joinGroups (groups : List UInt16) : List Char :=
  List.intercalate [':'] (groups.map fun g => Nat.toDigits 16 g.toNat)

def toText (address : Ipv6) : List Char :=
  let groups := address.toList
  match elided address with
  | none => joinGroups groups
  | some (first, count) =>
    joinGroups (groups.take first) ++ [':', ':'] ++ joinGroups (groups.drop (first + count))

end Ipv6
end CachePurge
