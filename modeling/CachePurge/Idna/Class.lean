import CachePurge.Unicode.Normal
import CachePurge.Unicode.HostMapping
import CachePurge.Unicode.Marks
import CachePurge.Unicode.Direction

/-!
What the characters of a host name are for: how each is mapped, whether it combines with the one
before, how it joins its neighbours, and in which direction it runs.
-/

namespace CachePurge.Idna

open Unicode

def validTable : Table Unit := readSet Data.hostValid
def ignoredTable : Table Unit := readSet Data.hostIgnored
def shiftTable : Table Shift := readShifts Data.hostShifts
def replacementTable : Table (Array (List Nat)) := readReplacements Data.hostReplacements
def markTable : Table Unit := readSet Data.marks
def joiningTable : Table String := readClasses Data.joining
def directionTable : Table String := readClasses Data.directions

/-- Characters that stay as they are; in ASCII all but the capital letters. -/
def isValidCode (c : Nat) : Bool :=
  if c < 128 then c < 65 || 90 < c else validTable.contains c

/-- What a character turns into; `none` refuses it. In ASCII capital letters turn into small
ones. -/
def mapCode (c : Nat) : Option (List Nat) :=
  if isValidCode c then some [c]
  else if c < 128 then some [c + 32]
  else if ignoredTable.contains c then some []
  else (replacementTable.replaced? c).or ((shiftTable.shifted? c).map ([·]))

def isMark (c : Nat) : Bool := markTable.contains c

/-- How a character joins: on the left, on the right, on both sides, or through it. -/
inductive Joining where
  | left
  | right
  | dual
  | transparent
  | none
  deriving DecidableEq

def joining (c : Nat) : Joining :=
  match (joiningTable.find? c).map (·.value) with
  | some "L" => .left
  | some "R" => .right
  | some "D" => .dual
  | some "T" => .transparent
  | _ => .none

inductive Direction where
  | left
  | right
  | arabic
  | arabicNumber
  | number
  | separator
  | terminator
  | commonSeparator
  | mark
  | neutral
  | boundary
  | other
  deriving DecidableEq

def direction (c : Nat) : Direction :=
  match (directionTable.find? c).map (·.value) with
  | Option.none => .left
  | some "R" => .right
  | some "AL" => .arabic
  | some "AN" => .arabicNumber
  | some "EN" => .number
  | some "ES" => .separator
  | some "ET" => .terminator
  | some "CS" => .commonSeparator
  | some "NSM" => .mark
  | some "ON" => .neutral
  | some "BN" => .boundary
  | _ => .other

end CachePurge.Idna
