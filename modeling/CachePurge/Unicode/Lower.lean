import CachePurge.Unicode.Table
import CachePurge.Unicode.LetterCase

/-!
The lower-case form of a text: character by character, and a capital sigma at the end of a word
becomes the final one.
-/

namespace CachePurge.Unicode

def lowerShiftTable : Table Shift := readShifts Data.lowerShifts
def lowerReplacementTable : Table (Array (List Nat)) := readReplacements Data.lowerReplacements
def casedTable : Table Unit := readSet Data.cased
def caseIgnorableTable : Table Unit := readSet Data.caseIgnorable

/-- The lower-case form of a character outside ASCII. -/
def lowerCode (c : Nat) : List Nat :=
  (lowerReplacementTable.replaced? c).getD ((lowerShiftTable.shifted? c).elim [c] ([·]))

def lowerChar (c : Char) : List Char :=
  if c.toNat < 128 then [c.toLower] else (lowerCode c.toNat).map Char.ofNat

/-- Whether the first character that counts for case has one. -/
def meetsCased (cs : List Char) : Bool :=
  match cs.dropWhile fun c => caseIgnorableTable.contains c.toNat with
  | [] => false
  | c :: _ => casedTable.contains c.toNat

/-- The lower-case form of what follows `before`, of which the last character comes first. -/
def lowerAfter (before : List Char) : List Char → List Char
  | [] => []
  | c :: rest =>
    (if c = 'Σ' then [if meetsCased before && !meetsCased rest then 'ς' else 'σ']
      else lowerChar c) ++ lowerAfter (c :: before) rest

def toLower (text : String) : String := String.ofList (lowerAfter [] text.toList)

end CachePurge.Unicode
