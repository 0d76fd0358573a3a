import CachePurge.Idna.Class
import CachePurge.Idna.Punycode

/-!
Internationalized host names in their ASCII form. Characters are mapped and composed, each label is
checked, and labels with other than ASCII characters are written in Punycode. Names in plain ASCII
only turn to lower case.
-/

namespace CachePurge.Idna

/-- ASCII characters that no host name may hold. -/
def isForbidden (c : Nat) : Bool :=
  c < 33 || c == 127 || "#%/:<>?@[\\]^|".toList.any (·.toNat == c)

def zeroWidthNonJoiner : Nat := 0x200c
def zeroWidthJoiner : Nat := 0x200d

/-- The combining class of the marks that kill an inherent vowel. -/
def viramaClass : Nat := 9

/-- Joiners stand after such a mark; a non-joiner may also stand between letters that join across
it. The characters before it come last first. -/
def joinersAllowed : (before : List Nat) → List Nat → Bool
  | _, [] => true
  | before, c :: rest =>
    let afterVirama := before.head?.any (Unicode.combiningClass · == viramaClass)
    let across (cs : List Nat) (side : Joining) : Bool :=
      match cs.dropWhile (joining · == .transparent) with
      | [] => false
      | d :: _ => joining d == side || joining d == .dual
    let allowed :=
      if c == zeroWidthJoiner then afterVirama
      else if c == zeroWidthNonJoiner then
        afterVirama || (across before .left && across rest .right)
      else true
    allowed && joinersAllowed (c :: before) rest

def isRightward (c : Nat) : Bool :=
  direction c == .right || direction c == .arabic || direction c == .arabicNumber

/-- The directions of a label must not let it be shown in two ways. -/
def directionsAllowed (label : List Nat) : Bool :=
  let ds := label.map direction
  let neutral : List Direction :=
    [.number, .separator, .commonSeparator, .terminator, .neutral, .boundary, .mark]
  let last := (ds.reverse.dropWhile (· == .mark)).head?
  match ds with
  | [] => true
  | .left :: _ =>
    ds.all (fun d => d == .left || neutral.contains d) &&
      last.any fun d => d == .left || d == .number
  | .right :: _ | .arabic :: _ =>
    ds.all (fun d => d == .right || d == .arabic || d == .arabicNumber || neutral.contains d) &&
      last.any (fun d => d == .right || d == .arabic || d == .number || d == .arabicNumber) &&
      !(ds.contains .number && ds.contains .arabicNumber)
  | _ => false

/-- Whether a label with other than ASCII characters is in its final form. -/
def isFinal (label : List Nat) : Bool :=
  label.all isValidCode && Unicode.normalize label == label && !label.head?.any isMark &&
    joinersAllowed [] label

def punycodeMark : List Nat := "xn--".toList.map Char.toNat

/-- The longest label that is written in Punycode, and the longest that is read from it. -/
def maxWritten : Nat := 1000
def maxRead : Nat := 2000

/-- A label as it is shown, of which every character has to be one that stays as it is; one in
Punycode must stand for a label with other than ASCII characters in its final form. -/
def shownLabel (label : List Nat) : Option (List Nat) :=
  if !label.all isValidCode then none
  else if punycodeMark.isPrefixOf label then do
    let digits := label.drop 4
    if digits.any (128 ≤ ·) || maxRead < digits.length then none
    let shown ← Punycode.decode (digits.map Char.ofNat)
    if shown.all (· < 128) || !isFinal shown then none
    return shown
  else if label.all (· < 128) || isFinal label then some label
  else none

/-- A label in ASCII; one that is in ASCII already stays as it is. -/
def writeLabel (label : List Nat) : Option (List Char) :=
  if label.all (· < 128) then some (label.map Char.ofNat)
  else if maxWritten < label.length then none
  else some (['x', 'n', '-', '-'] ++ Punycode.encode label)

/-- The ASCII form of a name with other than ASCII characters or a label in Punycode. -/
def mappedToAscii (name : List Char) : Option (List Char) := do
  let mapped ← name.mapM fun c => mapCode c.toNat
  let cs := Unicode.normalize mapped.flatten
  if cs.any isForbidden then none
  let labels := cs.splitOn 46
  let shown ← labels.mapM shownLabel
  if shown.flatten.any isRightward && !shown.all directionsAllowed then none
  let written ← labels.mapM writeLabel
  return List.intercalate ['.'] written

def toAscii (name : List Char) : Option (List Char) :=
  let lower := name.map Char.toLower
  if lower.all (·.toNat < 128) && !(lower.splitOn '.').any (['x', 'n', '-', '-'].isPrefixOf ·) then
    if lower.any fun c => isForbidden c.toNat then none else some lower
  else mappedToAscii name

end CachePurge.Idna
