/-!
Punycode: a sequence of code points written in letters, digits and hyphens. The ASCII characters
come first; the others follow as differences in a number system whose digit thresholds adapt.
-/

namespace CachePurge.Punycode

/-- The digit of a value below 36: letters, then decimal digits. -/
def digit (d : Nat) : Char := if d < 26 then Char.ofNat (97 + d) else Char.ofNat (22 + d)

def value? (c : Char) : Option Nat :=
  if 'a' ≤ c ∧ c ≤ 'z' then some (c.toNat - 97)
  else if 'A' ≤ c ∧ c ≤ 'Z' then some (c.toNat - 65)
  else if '0' ≤ c ∧ c ≤ '9' then some (c.toNat - 22)
  else none

/-- The least value that ends a number at a place, between 1 and 26. -/
def threshold (place bias : Nat) : Nat := max 1 (min 26 (place - bias))

/-- Scales a difference down until it fits, and counts the places that this takes. -/
def settle (delta place : Nat) : Nat × Nat :=
  if 455 < delta then settle (delta / 35) (place + 36) else (delta, place)
termination_by delta
decreasing_by exact Nat.div_lt_self (by omega) (by omega)

/-- The bias after a difference, when `count` characters have been written or read. -/
def adapt (delta count : Nat) (first : Bool) : Nat :=
  let halved := if first then delta / 700 else delta / 2
  let (rest, place) := settle (halved + halved / count) 0
  place + 36 * rest / (rest + 38)

/-- A number in digits, the lowest place first. -/
def writeNumber (n place bias : Nat) : List Char :=
  let t := threshold place bias
  if n < t then [digit n]
  else digit (t + (n - t) % (36 - t)) :: writeNumber ((n - t) / (36 - t)) (place + 36) bias
termination_by n
decreasing_by
  have : 1 ≤ threshold place bias := Nat.le_max_left ..
  have : threshold place bias ≤ 26 := by simp only [threshold]; omega
  exact Nat.lt_of_le_of_lt (Nat.div_le_self ..) (by omega)

/-- Writing in progress: how many characters are written, the difference since the last one, the
bias, and the digits so far. -/
structure Writing where
  count : Nat
  delta : Nat
  bias : Nat
  digits : List Char

/-- Passes over a character while writing those equal to `n`. -/
def Writing.pass (basic n : Nat) (w : Writing) (c : Nat) : Writing :=
  if c < n then { w with delta := w.delta + 1 }
  else if c = n then
    ⟨w.count + 1, 0, adapt w.delta (w.count + 1) (w.count == basic),
      w.digits ++ writeNumber w.delta 36 w.bias⟩
  else w

/-- Writes the code points from `n` on; `bound` bounds how many different ones there are. -/
def writeFrom (cs : List Nat) (basic : Nat) : (bound : Nat) → (n : Nat) → Writing → List Char
  | 0, _, w => w.digits
  | bound + 1, n, w =>
    match (cs.filter (n ≤ ·)).min? with
    | none => w.digits
    | some m =>
      let w := { w with delta := w.delta + (m - n) * (w.count + 1) }
      let w := cs.foldl (Writing.pass basic m) w
      writeFrom cs basic bound (m + 1) { w with delta := w.delta + 1 }

def encode (cs : List Nat) : List Char :=
  let ascii := cs.filter (· < 128)
  let head := if ascii.isEmpty then [] else ascii.map Char.ofNat ++ ['-']
  head ++ writeFrom cs ascii.length cs.length 128 ⟨ascii.length, 0, 72, []⟩

/-- Reads a number, and gives what is left after it. -/
def readNumber (bias : Nat) : (place weight total : Nat) → List Char → Option (Nat × List Char)
  | _, _, _, [] => none
  | place, weight, total, c :: s => do
    let d ← value? c
    let t := threshold place bias
    if d < t then return (total + d * weight, s)
    readNumber bias (place + 36) (weight * (36 - t)) (total + d * weight) s

/-- Inserts the characters that the digits name; `bound` bounds their number. -/
def readFrom : (bound : Nat) → (n i bias : Nat) → List Nat → List Char → Option (List Nat)
  | _, _, _, _, out, [] => some out
  | 0, _, _, _, _, _ => none
  | bound + 1, n, i, bias, out, s => do
    let (delta, s) ← readNumber bias 36 1 0 s
    let count := out.length + 1
    let first := i == 0
    let n := n + (i + delta) / count
    let i := (i + delta) % count
    if n < 0x110000 ∧ ¬(0xd800 ≤ n ∧ n < 0xe000) then
      readFrom bound n (i + 1) (adapt delta count first)
        (out.take i ++ n :: out.drop i) s
    else none

/-- The code points that a text writes: the last hyphen, unless it comes first, ends the ASCII
ones. -/
def decode (s : List Char) : Option (List Nat) :=
  let tail := (s.reverse.takeWhile (· != '-')).reverse
  let head := s.take (s.length - tail.length - 1)
  let digits := if head.isEmpty then s else tail
  if head.all (·.toNat < 128) then
    readFrom digits.length 128 0 72 (head.map Char.toNat) digits
  else none

end CachePurge.Punycode
