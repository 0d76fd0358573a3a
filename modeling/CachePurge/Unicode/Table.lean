import CachePurge.Text.Hex

/-!
Tables over code points. A table is written as a text of blank-separated entries, read once, and
searched by bisection.
-/

namespace CachePurge.Unicode

/-- Consecutive code points with a value in common. -/
structure Span (α : Type) where
  first : Nat
  last : Nat
  value : α

/-- Spans in increasing order that do not overlap. -/
structure Table (α : Type) where
  spans : Array (Span α)

namespace Table

variable {α : Type}

/-- The span between two positions of a table that holds a code point. -/
def search (spans : Array (Span α)) (c lo hi : Nat) : Option (Span α) :=
  if _h : lo < hi then
    match spans[(lo + hi) / 2]? with
    | none => none
    | some s =>
      if c < s.first then search spans c lo ((lo + hi) / 2)
      else if s.last < c then search spans c ((lo + hi) / 2 + 1) hi
      else some s
  else none
termination_by hi - lo
decreasing_by all_goals omega

def find? (t : Table α) (c : Nat) : Option (Span α) := search t.spans c 0 t.spans.size

def contains (t : Table α) (c : Nat) : Bool := (t.find? c).isSome

def ofSpans (spans : List (Span α)) : Table α :=
  ⟨(spans.mergeSort fun s t => s.first ≤ t.first).toArray⟩

end Table

/-- The words of a text, which blanks and line ends separate. -/
def wordsOf (text : String) : List (List Char) :=
  (text.toList.splitBy fun a b => (a == ' ' || a == '\n') == (b == ' ' || b == '\n')).filter
    fun w => w.all fun c => !(c == ' ' || c == '\n')

def readCode (digits : List Char) : Nat := (Hex.toNat? digits).getD 0

/-- Reads `first-last`, or a single code point. -/
def readRange (range : List Char) : Nat × Nat :=
  match range.splitOn '-' with
  | [first, last] => (readCode first, readCode last)
  | _ => (readCode range, readCode range)

def readSet (text : String) : Table Unit :=
  .ofSpans ((wordsOf text).map fun w => let (first, last) := readRange w; ⟨first, last, ()⟩)

/-- Classes of code points, written as `CLASS=range|range|...`. -/
def readClasses (text : String) : Table String :=
  .ofSpans ((wordsOf text).flatMap fun w =>
    match w.splitOn '=' with
    | [name, ranges] => (ranges.splitOn '|').map fun r =>
      let (first, last) := readRange r; ⟨first, last, String.ofList name⟩
    | _ => [])

/-- Every second code point of a range or all of them, moved to begin at a target. -/
structure Shift where
  stride : Nat
  target : Nat

/-- Runs that move to other runs, written as `first-last>target` or `first-last/2>target`. -/
def readShifts (text : String) : Table Shift :=
  .ofSpans ((wordsOf text).flatMap fun w =>
    match w.splitOn '>' with
    | [source, target] =>
      match source.splitOn '/' with
      | [range, _] => let (first, last) := readRange range; [⟨first, last, 2, readCode target⟩]
      | _ => let (first, last) := readRange source; [⟨first, last, 1, readCode target⟩]
    | _ => [])

/-- Replacements, written as `first:a+b,c,...`: one sequence for each code point from the first
on. -/
def readReplacements (text : String) : Table (Array (List Nat)) :=
  .ofSpans ((wordsOf text).flatMap fun w =>
    match w.splitOn ':' with
    | [first, items] =>
      let sequences := (items.splitOn ',').map fun item => (item.splitOn '+').map readCode
      [⟨readCode first, readCode first + sequences.length - 1, sequences.toArray⟩]
    | _ => [])

def Table.shifted? (t : Table Shift) (c : Nat) : Option Nat :=
  (t.find? c).bind fun s =>
    if (c - s.first) % s.value.stride = 0 then some (s.value.target + (c - s.first)) else none

def Table.replaced? (t : Table (Array (List Nat))) (c : Nat) : Option (List Nat) :=
  (t.find? c).bind fun s => s.value[c - s.first]?

end CachePurge.Unicode
