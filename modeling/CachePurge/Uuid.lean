import CachePurge.Text.Hex

/-!
Identifiers of 128 bits, written as 32 hexadecimal digits in five groups. They are also read without
hyphens, in braces and as a name of the `urn` scheme, in either letter case.
-/

namespace CachePurge

abbrev Uuid := BitVec 128

namespace Uuid

/-- How many digits stand in each group. -/
def groupLengths : List Nat := [8, 4, 4, 4, 12]

/-- Cuts digits into groups with a hyphen between each two. -/
def hyphenate : List Nat → List Char → List Char
  | [], digits | [_], digits => digits
  | n :: more, digits => digits.take n ++ '-' :: hyphenate more (digits.drop n)

def toText (id : Uuid) : String :=
  String.ofList (hyphenate groupLengths (Hex.ofNat 32 id.toNat))

def ofDigits? (digits : List Char) : Option Uuid :=
  if digits.length = 32 then (Hex.toNat? digits).map (BitVec.ofNat 128) else none

/-- Takes out the hyphens, which have to stand between the groups. -/
def unhyphenate? : List Nat → List Char → Option (List Char)
  | [], digits => if digits.isEmpty then some [] else none
  | [n], digits => if digits.length = n then some digits else none
  | n :: more, digits =>
    match digits.drop n with
    | '-' :: rest => (unhyphenate? more rest).map (digits.take n ++ ·)
    | _ => none

def ofHyphenated? (text : List Char) : Option Uuid :=
  (unhyphenate? groupLengths text).bind ofDigits?

def ofText? (text : String) : Option Uuid :=
  match text.toList with
  | '\x7b' :: rest =>
    if rest.getLast? == some '\x7d' then ofHyphenated? rest.dropLast else none
  | 'u' :: 'r' :: 'n' :: ':' :: 'u' :: 'u' :: 'i' :: 'd' :: ':' :: rest => ofHyphenated? rest
  | plain => if plain.length = 32 then ofDigits? plain else ofHyphenated? plain

end Uuid
end CachePurge
