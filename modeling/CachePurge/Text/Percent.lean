import CachePurge.Text.Hex
import CachePurge.Text.Utf8

/-!
Percent encoding. Each part of a URL has its own set of ASCII characters that must not stand in it;
they, control characters and all characters outside ASCII are written byte by byte.
-/

namespace CachePurge.Percent

def upperDigit (n : Nat) : Char := (Hex.digit n).toUpper

def encodeByte (b : UInt8) : List Char := ['%', upperDigit (b.toNat / 16), upperDigit b.toNat]

def isControl (c : Char) : Bool := c.toNat < 32 || 126 < c.toNat

/-- Encodes control characters, characters outside ASCII, and those of a set. -/
def encode (set : List Char) (text : List Char) : List Char :=
  text.flatMap fun c =>
    if isControl c || set.contains c then (String.utf8EncodeChar c).flatMap encodeByte else [c]

/-- The bytes that a text stands for; a percent sign that no two digits follow stands for itself. -/
def decode : List Char → List UInt8
  | [] => []
  | '%' :: a :: b :: rest =>
    match Hex.value? a, Hex.value? b with
    | some m, some n => (m * 16 + n).toUInt8 :: decode rest
    | _, _ => 37 :: decode (a :: b :: rest)
  | c :: rest => String.utf8EncodeChar c ++ decode rest

def fragmentSet : List Char := [' ', '"', '<', '>', '\x60']
def querySet : List Char := [' ', '"', '#', '<', '>']
def specialQuerySet : List Char := '\'' :: querySet
def pathSet : List Char := fragmentSet ++ ['#', '?', '\x7b', '\x7d']
def segmentSet : List Char := pathSet ++ ['/', '%']
def specialSegmentSet : List Char := segmentSet ++ ['\\']
def userinfoSet : List Char := pathSet ++ ['/', ':', ';', '=', '@', '[', '\\', ']', '^', '|']

end CachePurge.Percent
