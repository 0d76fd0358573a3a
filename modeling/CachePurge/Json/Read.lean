import CachePurge.Json.Basic

/-!
Reading JSON text. Every refusal names what is wrong and the line and the column, in bytes, at
which the text stops being readable.
-/

namespace CachePurge.Json

inductive Flaw where
  | endInList
  | endInObject
  | endInString
  | endInValue
  | noColon
  | noListSeparator
  | noObjectSeparator
  | badWord
  | noValue
  | badEscape
  | badNumber
  | numberTooLarge
  | controlCharacter
  | nameNotString
  | loneSurrogate
  | trailingComma
  | trailingText
  | halfSurrogatePair
  | tooDeep
  deriving DecidableEq, Repr

def Flaw.message : Flaw → String
  | .endInList => "EOF while parsing a list"
  | .endInObject => "EOF while parsing an object"
  | .endInString => "EOF while parsing a string"
  | .endInValue => "EOF while parsing a value"
  | .noColon => "expected \x60:\x60"
  | .noListSeparator => "expected \x60,\x60 or \x60]\x60"
  | .noObjectSeparator => "expected \x60,\x60 or \x60\x7d\x60"
  | .badWord => "expected ident"
  | .noValue => "expected value"
  | .badEscape => "invalid escape"
  | .badNumber => "invalid number"
  | .numberTooLarge => "number out of range"
  | .controlCharacter => "control character (\\u0000-\\u001F) found while parsing a string"
  | .nameNotString => "key must be a string"
  | .loneSurrogate => "lone leading surrogate in hex escape"
  | .trailingComma => "trailing comma"
  | .trailingText => "trailing characters"
  | .halfSurrogatePair => "unexpected end of hex escape"
  | .tooDeep => "recursion limit exceeded"

/-- Where reading stopped: what was left then, and how many bytes of it count as read. -/
structure Stop where
  flaw : Flaw
  rest : List Char
  taken : Nat

def stopAt {α : Type} (flaw : Flaw) (rest : List Char) : Except Stop α := .error ⟨flaw, rest, 0⟩

/-- Blames the next byte, which counts as read. -/
def stopOn {α : Type} (flaw : Flaw) (rest : List Char) : Except Stop α := .error ⟨flaw, rest, 1⟩

def isBlank (c : Char) : Bool := c = ' ' || c = '\n' || c = '\t' || c = '\r'

def skipBlank (s : List Char) : List Char := s.dropWhile isBlank

def isDigit (c : Char) : Bool := '0' ≤ c && c ≤ '9'

def digitValue (c : Char) : Nat := c.toNat - 48

/-- Reads the rest of a word whose first letter has been seen. -/
def readWord : (letters : List Char) → List Char → Except Stop (List Char)
  | [], s => .ok s
  | _ :: _, [] => stopAt .endInValue []
  | l :: letters, c :: s => if c = l then readWord letters s else stopOn .badWord (c :: s)

/-- Takes digits while the total stays below `2^64`; gives the total and how many were left. -/
def gather (total : Nat) : List Char → Nat × Nat
  | [] => (total, 0)
  | c :: digits =>
    if total * 10 + digitValue c < UInt64.size then gather (total * 10 + digitValue c) digits
    else (total, digits.length + 1)

/-- The value of an exponent's digits, or what is left after the digit that takes it past
`2^31 - 1`. -/
def gatherExponent (total : Nat) : List Char → Except (List Char) (Nat × List Char)
  | [] => .ok (total, [])
  | c :: s =>
    if isDigit c then
      if total * 10 + digitValue c < 1 <<< 31 then gatherExponent (total * 10 + digitValue c) s
      else .error s
    else .ok (total, c :: s)

/-- A whole number cut to the digits of a double: the nearer of two such, the even one of two that
are equally near. -/
def nearestDouble (n : Nat) : Nat :=
  let weight := 1 <<< (n.log2 - 52)
  let rest := n % weight
  let up := weight < 2 * rest || (weight == 2 * rest && n / weight % 2 == 1)
  (n / weight + if up then 1 else 0) * weight

/-- Whether the product of the significand and the power of ten, both doubles, is too large for a
double. -/
def exceedsDouble (significand : Nat) (exponent : Int) : Bool :=
  significand != 0 && 0 ≤ exponent &&
    (308 < exponent || 1 <<< 1024 ≤
      nearestDouble (nearestDouble significand * nearestDouble (Nat.pow 10 exponent.toNat)))

def readScaled (minus : Bool) (significand : Nat) (exponent : Int) (s : List Char) :
    Except Stop (JsonNumber × List Char) :=
  if exceedsDouble significand exponent then stopAt .numberTooLarge s
  else .ok (.decimal minus significand exponent, s)

/-- Reads an exponent, of which the `e` has been read. -/
def readExponent (minus : Bool) (significand : Nat) (exponent : Int) (s : List Char) :
    Except Stop (JsonNumber × List Char) :=
  let (down, s) := match s with
    | '+' :: s => (false, s)
    | '-' :: s => (true, s)
    | s => (false, s)
  match s with
  | [] => stopAt .endInValue []
  | c :: t =>
    if isDigit c then
      match gatherExponent 0 (c :: t) with
      | .ok (e, t) => readScaled minus significand (if down then exponent - e else exponent + e) t
      | .error t =>
        if significand != 0 && !down then stopAt .numberTooLarge t
        else .ok (.decimal minus 0 0, t.dropWhile isDigit)
    else stopOn .badNumber (c :: t)

/-- Reads what follows the digits before and after the point. -/
def readTail (minus : Bool) (significand : Nat) (exponent : Int) :
    List Char → Except Stop (JsonNumber × List Char)
  | 'e' :: s | 'E' :: s => readExponent minus significand exponent s
  | s => readScaled minus significand exponent s

/-- Reads what follows the digits of a whole number, of which `left` were not taken. -/
def readFraction (minus : Bool) (significand left : Nat) (s : List Char) :
    Except Stop (JsonNumber × List Char) :=
  match s with
  | '.' :: t =>
    let digits := t.takeWhile isDigit
    if digits.isEmpty then (if t.isEmpty then stopOn .endInValue t else stopOn .badNumber t)
    else
      let (total, dropped) := gather significand digits
      readTail minus total ((left : Int) - (digits.length - dropped : Nat)) (t.dropWhile isDigit)
  | 'e' :: _ | 'E' :: _ => readTail minus significand left s
  | _ =>
    if left != 0 then readScaled minus significand left s
    else if !minus then .ok (.natural significand, s)
    else if 0 < significand && significand ≤ 1 <<< 63 then .ok (.negative significand, s)
    else .ok (.decimal true significand 0, s)

def readNumber (minus : Bool) (s : List Char) : Except Stop (JsonNumber × List Char) :=
  match s.takeWhile isDigit, s with
  | [], [] => stopAt .endInValue []
  | [], _ :: _ => stopOn .badNumber s
  | '0' :: _ :: _, _ => stopOn .badNumber s.tail
  | digits, _ =>
    let (significand, left) := gather 0 digits
    readFraction minus significand left (s.dropWhile isDigit)

/-- The value of the next four hexadecimal digits; a flaw counts four bytes as read. -/
def readHex (s : List Char) : Except Stop (Nat × List Char) :=
  if (s.flatMap String.utf8EncodeChar).length < 4 then stopAt .endInString []
  else match s with
    | a :: b :: c :: d :: rest =>
      match Hex.toNat? [a, b, c, d] with
      | some n => .ok (n, rest)
      | none => .error ⟨.badEscape, s, 4⟩
    | _ => .error ⟨.badEscape, s, 4⟩

/-- Reads a character escape by code unit, of which the `\u` has been read; a leading surrogate
must be followed by a trailing one. -/
def readUnit (s : List Char) : Except Stop (Char × List Char) := do
  let (n, s) ← readHex s
  if 0xdc00 ≤ n ∧ n ≤ 0xdfff then stopAt .loneSurrogate s
  else if n < 0xd800 ∨ 0xdbff < n then .ok (Char.ofNat n, s)
  else match s with
    | [] => stopAt .endInString []
    | '\\' :: [] => stopAt .endInString []
    | '\\' :: 'u' :: s =>
      let (m, s) ← readHex s
      if m < 0xdc00 ∨ 0xdfff < m then stopAt .loneSurrogate s
      else .ok (Char.ofNat (0x10000 + (n - 0xd800) * 0x400 + (m - 0xdc00)), s)
    | '\\' :: s => stopOn .halfSurrogatePair s
    | s => stopOn .halfSurrogatePair s

/-- Reads an escape, of which the backslash has been read. -/
def readEscape (s : List Char) : Except Stop (Char × List Char) :=
  match s with
  | [] => stopAt .endInString []
  | '"' :: s => .ok ('"', s)
  | '\\' :: s => .ok ('\\', s)
  | '/' :: s => .ok ('/', s)
  | 'b' :: s => .ok ('\x08', s)
  | 'f' :: s => .ok ('\x0c', s)
  | 'n' :: s => .ok ('\n', s)
  | 'r' :: s => .ok ('\r', s)
  | 't' :: s => .ok ('\t', s)
  | 'u' :: s => readUnit s
  | s => stopOn .badEscape s

/-- Reads a string after its opening quote; `bound` bounds its length. -/
def readChars : (bound : Nat) → List Char → Except Stop (List Char × List Char)
  | 0, s => stopAt .endInString s
  | _ + 1, [] => stopAt .endInString []
  | _ + 1, '"' :: s => .ok ([], s)
  | bound + 1, '\\' :: s => do
    let (c, s) ← readEscape s
    let (cs, s) ← readChars bound s
    return (c :: cs, s)
  | bound + 1, c :: s =>
    if c.toNat < 32 then stopOn .controlCharacter (c :: s)
    else do
      let (cs, s) ← readChars bound s
      return (c :: cs, s)

def readString (s : List Char) : Except Stop (String × List Char) := do
  let (cs, s) ← readChars (s.length + 1) s
  return (String.ofList cs, s)

/-- Reads an item of a list, given how to read it and what follows it. -/
def readItem (item : List Char → Except Stop (Json × List Char))
    (others : List Char → Except Stop (List Json × List Char)) (s : List Char) :
    Except Stop (List Json × List Char) := do
  let (x, s) ← item s
  let (xs, s) ← others s
  return (x :: xs, s)

/-- Reads the items of a list up to its closing bracket, given how to read one. -/
def readItems (item : List Char → Except Stop (Json × List Char)) :
    (bound : Nat) → (first : Bool) → List Char → Except Stop (List Json × List Char)
  | 0, _, s => stopAt .endInList s
  | bound + 1, first, s =>
    let next := readItem item (readItems item bound false)
    match skipBlank s with
    | [] => stopOn .endInList []
    | c :: s =>
      if c = ']' then .ok ([], s)
      else if first then next (c :: s)
      else if c = ',' then
        match skipBlank s with
        | [] => stopOn .endInValue []
        | d :: s => if d = ']' then stopOn .trailingComma (d :: s) else next (d :: s)
      else stopOn .noListSeparator (c :: s)

/-- Reads a member of an object after the opening quote of its name, given how to read its value and
what follows it. -/
def readMember (item : List Char → Except Stop (Json × List Char))
    (others : List Char → Except Stop (List (String × Json) × List Char)) (s : List Char) :
    Except Stop (List (String × Json) × List Char) := do
  let (name, s) ← readString s
  match skipBlank s with
  | [] => stopOn .endInObject []
  | c :: s =>
    if c = ':' then do
      let (x, s) ← item s
      let (xs, s) ← others s
      return ((name, x) :: xs, s)
    else stopOn .noColon (c :: s)

/-- Reads the members of an object up to its closing brace, given how to read a value. -/
def readMembers (item : List Char → Except Stop (Json × List Char)) :
    (bound : Nat) → (first : Bool) → List Char → Except Stop (List (String × Json) × List Char)
  | 0, _, s => stopAt .endInObject s
  | bound + 1, first, s =>
    let next := readMember item (readMembers item bound false)
    match skipBlank s with
    | [] => stopOn .endInObject []
    | c :: s =>
      if c = '\x7d' then .ok ([], s)
      else if first then
        if c = '"' then next s else stopOn .nameNotString (c :: s)
      else if c = ',' then
        match skipBlank s with
        | [] => stopOn .endInValue []
        | d :: s =>
          if d = '"' then next s
          else if d = '\x7d' then stopOn .trailingComma (d :: s)
          else stopOn .nameNotString (d :: s)
      else stopOn .noObjectSeparator (c :: s)

/-- Reads a value that nests lists and objects at most `depth` deep. -/
def readValue (depth : Nat) (s : List Char) : Except Stop (Json × List Char) :=
  match skipBlank s with
  | [] => stopOn .endInValue []
  | c :: s =>
    if c = 'n' then (readWord ['u', 'l', 'l'] s).map ((.null, ·))
    else if c = 't' then (readWord ['r', 'u', 'e'] s).map ((.bool true, ·))
    else if c = 'f' then (readWord ['a', 'l', 's', 'e'] s).map ((.bool false, ·))
    else if c = '-' then (readNumber true s).map fun (n, s) => (.number n, s)
    else if isDigit c then (readNumber false (c :: s)).map fun (n, s) => (.number n, s)
    else if c = '"' then (readString s).map fun (t, s) => (.string t, s)
    else if c = '[' then
      match depth with
      | 0 => stopOn .tooDeep (c :: s)
      | depth + 1 =>
        (readItems (readValue depth) (s.length + 1) true s).map fun (xs, s) => (.array xs, s)
    else if c = '\x7b' then
      match depth with
      | 0 => stopOn .tooDeep (c :: s)
      | depth + 1 =>
        (readMembers (readValue depth) (s.length + 1) true s).map fun (xs, s) => (.object xs, s)
    else stopOn .noValue (c :: s)

/-- A flaw with the line and the column of the last byte that counts as read. -/
structure SyntaxError where
  flaw : Flaw
  line : Nat
  column : Nat
  deriving DecidableEq, Repr

def SyntaxError.message (e : SyntaxError) : String :=
  e.flaw.message ++ " at line " ++ toString e.line ++ " column " ++ toString e.column

/-- The line and the column after the bytes of a text. -/
def positionAfter (bytes : List UInt8) : Nat × Nat :=
  bytes.foldl (fun (line, column) (b : UInt8) =>
    if b = 10 then (line + 1, 0) else (line, column + 1)) (1, 0)

def Stop.locate (text : List Char) (stop : Stop) : SyntaxError :=
  let read := text.take (text.length - stop.rest.length)
  let bytes := read.flatMap String.utf8EncodeChar ++
    (stop.rest.flatMap String.utf8EncodeChar).take stop.taken
  let (line, column) := positionAfter bytes
  ⟨stop.flaw, line, column⟩

def maxDepth : Nat := 127

def parse (text : String) : Except SyntaxError Json :=
  match readValue maxDepth text.toList with
  | .error stop => .error (stop.locate text.toList)
  | .ok (j, s) =>
    match skipBlank s with
    | [] => .ok j
    | s => .error (Stop.locate text.toList ⟨.trailingText, s, 1⟩)

end CachePurge.Json
