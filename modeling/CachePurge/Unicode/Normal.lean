import CachePurge.Unicode.Table
import CachePurge.Unicode.Decomposition

/-!
Canonical composition (form C): characters are taken apart, marks put in the order of their
combining classes, and put together again where nothing stands between.
-/

namespace CachePurge.Unicode

def compositionTable : Table (Array (List Nat)) := readReplacements Data.compositions
def decompositionTable : Table (Array (List Nat)) := readReplacements Data.decompositions
def combiningTable : Table String := readClasses Data.combiningClasses

/-- The combining class, zero for a character that starts a sequence. -/
def combiningClass (c : Nat) : Nat :=
  ((combiningTable.find? c).bind (·.value.toNat?)).getD 0

/-- The syllable block of Hangul: `L` leading, `V` vowel and `T` trailing letters. -/
structure Hangul where
  base : Nat := 0xac00
  leading : Nat := 0x1100
  vowel : Nat := 0x1161
  trailing : Nat := 0x11a7

def hangul : Hangul := {}

def decomposeHangul? (c : Nat) : Option (List Nat) :=
  if hangul.base ≤ c ∧ c < hangul.base + 19 * 21 * 28 then
    let i := c - hangul.base
    let pair := [hangul.leading + i / (21 * 28), hangul.vowel + i % (21 * 28) / 28]
    some (if i % 28 = 0 then pair else pair ++ [hangul.trailing + i % 28])
  else none

def composeHangul? (a b : Nat) : Option Nat :=
  if hangul.leading ≤ a ∧ a < hangul.leading + 19 ∧ hangul.vowel ≤ b ∧ b < hangul.vowel + 21 then
    some (hangul.base + ((a - hangul.leading) * 21 + (b - hangul.vowel)) * 28)
  else if hangul.base ≤ a ∧ a < hangul.base + 19 * 21 * 28 ∧ (a - hangul.base) % 28 = 0 ∧
      hangul.trailing < b ∧ b < hangul.trailing + 28 then
    some (a + (b - hangul.trailing))
  else none

/-- Takes a character apart; `bound` bounds how often its first part is taken apart again. -/
def decomposeCode : (bound : Nat) → Nat → List Nat
  | 0, c => [c]
  | bound + 1, c =>
    match compositionTable.replaced? c with
    | some [a, b] => decomposeCode bound a ++ [b]
    | _ => (decompositionTable.replaced? c).getD [c]

def decompose (c : Nat) : List Nat := (decomposeHangul? c).getD (decomposeCode 4 c)

/-- The pairs that are put together, each under one key. -/
def pairKey (a b : Nat) : Nat := a * 0x200000 + b

def pairTable : Table Nat :=
  .ofSpans (compositionTable.spans.toList.flatMap fun s =>
    s.value.toList.zipIdx.flatMap fun (parts, i) =>
      match parts with
      | [a, b] => [⟨pairKey a b, pairKey a b, s.first + i⟩]
      | _ => [])

def composePair? (a b : Nat) : Option Nat :=
  (composeHangul? a b).or ((pairTable.find? (pairKey a b)).map (·.value))

/-- Puts every run of marks in the order of their classes, which keeps equal ones in place. -/
def orderMarks (cs : List Nat) : List Nat :=
  let marked := cs.map fun c => (c, combiningClass c)
  (marked.splitBy fun _ b => b.2 != 0).flatMap fun run =>
    match run with
    | [] => []
    | (c, k) :: rest =>
      if k = 0 then c :: (rest.mergeSort fun x y => x.2 ≤ y.2).map (·.1)
      else (run.mergeSort fun x y => x.2 ≤ y.2).map (·.1)

/-- Composition in progress: the last starter, and what followed it without joining it, both with
the newest first. -/
structure Composing where
  done : List Nat
  starter : Option Nat
  waiting : List (Nat × Nat)

def Composing.finish (s : Composing) : List Nat :=
  s.waiting.map (·.1) ++ s.starter.toList ++ s.done

/-- A character joins the last starter unless one that waits has the same class or a higher one. -/
def Composing.push (s : Composing) (c : Nat) : Composing :=
  let k := combiningClass c
  let reachable := match s.waiting with
    | [] => true
    | (_, last) :: _ => last < k
  match s.starter.bind fun a => if reachable then composePair? a c else none with
  | some joined => { s with starter := some joined }
  | none =>
    if k = 0 then ⟨s.finish, some c, []⟩
    else { s with waiting := (c, k) :: s.waiting }

def compose (cs : List Nat) : List Nat :=
  (cs.foldl Composing.push ⟨[], none, []⟩).finish.reverse

/-- Form C of a sequence of code points. In ASCII nothing is taken apart or put together. -/
def normalize (cs : List Nat) : List Nat :=
  if cs.all (· < 128) then cs else compose (orderMarks (cs.flatMap decompose))

end CachePurge.Unicode
