import CachePurge.Text.Hex

/-!
JSON values and their compact text. An object keeps its members in the order written, a repeated
name included; which of them counts is a question for the reader of the object.
-/

namespace CachePurge

/-- A number as its text gives it: a whole number below `2^64`, one down to `-2^63`, or a decimal
`± significand · 10^exponent`. -/
inductive JsonNumber where
  | natural (n : Nat)
  | negative (n : Nat)
  | decimal (minus : Bool) (significand : Nat) (exponent : Int)
  deriving DecidableEq, Repr

inductive Json where
  | null
  | bool (b : Bool)
  | number (n : JsonNumber)
  | string (s : String)
  | array (items : List Json)
  | object (members : List (String × Json))
  deriving Repr

namespace Json

def ofNat (n : Nat) : Json := .number (.natural n)

def ofOption {α : Type} (f : α → Json) : Option α → Json
  | none => .null
  | some a => f a

/-- The member that counts when a name is repeated: the last one. -/
def member? : Json → String → Option Json
  | .object members, name => (members.reverse.find? (·.1 == name)).map (·.2)
  | _, _ => none

def asString? : Json → Option String
  | .string s => some s
  | _ => none

def isObject : Json → Bool
  | .object _ => true
  | _ => false

/-- The members with each name once, at its first place and with its last value. -/
def distinct (members : List (String × Json)) : List (String × Json) :=
  members.foldl (fun kept (name, value) =>
    if kept.any (·.1 == name) then kept.map fun m => if m.1 == name then (name, value) else m
    else kept ++ [(name, value)]) []

end Json

namespace JsonNumber

def toText : JsonNumber → List Char
  | .natural n => Nat.toDigits 10 n
  | .negative n => '-' :: Nat.toDigits 10 n
  | .decimal minus significand exponent =>
    (if minus then ['-'] else []) ++ Nat.toDigits 10 significand ++
      'e' :: (if exponent < 0 then ['-'] else []) ++ Nat.toDigits 10 exponent.natAbs

/-- The significand rounded to a double, then scaled by one power of ten. -/
def toFloat : JsonNumber → Float
  | .natural n => n.toUInt64.toFloat
  | .negative n => -n.toUInt64.toFloat
  | .decimal minus significand exponent =>
    let f := significand.toUInt64.toFloat
    let power (e : Nat) : Float := OfScientific.ofScientific 1 false e
    let scaled :=
      if 0 ≤ exponent then f * power (min 308 exponent.toNat)
      else if exponent.natAbs ≤ 308 then f / power exponent.natAbs
      else f / power 308 / power (min 308 (exponent.natAbs - 308))
    if minus then -scaled else scaled

end JsonNumber

namespace Json

/-- How a character stands in a quoted string: quote, backslash and control characters escaped. -/
def escape (c : Char) : List Char :=
  if c = '"' then ['\\', '"']
  else if c = '\\' then ['\\', '\\']
  else if c = '\n' then ['\\', 'n']
  else if c = '\r' then ['\\', 'r']
  else if c = '\t' then ['\\', 't']
  else if c = '\x08' then ['\\', 'b']
  else if c = '\x0c' then ['\\', 'f']
  else if c.toNat < 32 then ['\\', 'u', '0', '0', Hex.digit (c.toNat / 16), Hex.digit c.toNat]
  else [c]

/-- A quoted string written in front of a text. -/
def writeString (s : String) (rest : List Char) : List Char :=
  '"' :: s.toList.foldr (fun c t => escape c ++ t) ('"' :: rest)

mutual

def write : Json → List Char → List Char
  | .null, rest => 'n' :: 'u' :: 'l' :: 'l' :: rest
  | .bool true, rest => 't' :: 'r' :: 'u' :: 'e' :: rest
  | .bool false, rest => 'f' :: 'a' :: 'l' :: 's' :: 'e' :: rest
  | .number n, rest => n.toText ++ rest
  | .string s, rest => writeString s rest
  | .array [], rest => '[' :: ']' :: rest
  | .array (x :: xs), rest => '[' :: write x (writeItems xs (']' :: rest))
  | .object [], rest => '\x7b' :: '\x7d' :: rest
  | .object ((name, x) :: xs), rest =>
    '\x7b' :: writeString name (':' :: write x (writeMembers xs ('\x7d' :: rest)))

def writeItems : List Json → List Char → List Char
  | [], rest => rest
  | x :: xs, rest => ',' :: write x (writeItems xs rest)

def writeMembers : List (String × Json) → List Char → List Char
  | [], rest => rest
  | (name, x) :: xs, rest => ',' :: writeString name (':' :: write x (writeMembers xs rest))

end

/-- The compact text, with no blank between tokens. -/
def render (j : Json) : String := String.ofList (write j [])

end Json
end CachePurge
