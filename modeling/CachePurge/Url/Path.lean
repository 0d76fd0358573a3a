import CachePurge.Text.Percent

/-!
Paths of URLs. A path is a list of segments after a root, or one plain text. Reading a path resolves
the segments that stand for the place itself or the one above; a drive letter is never left.
-/

namespace CachePurge.Url

inductive Path where
  | plain (text : String)
  | rooted (segments : List String)
  deriving DecidableEq, Repr

namespace Path

def toText : Path → String
  | .plain text => text
  | .rooted segments => String.join (segments.map ("/" ++ ·))

/-- Spellings of the segment that stands for the place itself. -/
def isHere (segment : List Char) : Bool :=
  [".", "%2e"].contains (String.ofList (segment.map Char.toLower))

/-- Spellings of the segment that stands for the place above. -/
def isAbove (segment : List Char) : Bool :=
  ["..", ".%2e", "%2e.", "%2e%2e"].contains (String.ofList (segment.map Char.toLower))

def isDriveLetter : List Char → Bool
  | [c, mark] => c.isAlpha && (mark == ':' || mark == '|')
  | _ => false

/-- The place above, which of a drive letter is the drive itself. -/
def leave (kept : List String) : List String :=
  if kept.getLast?.any fun last => isDriveLetter last.toList then kept else kept.dropLast

/-- Adds the segments of a path to those above it; the last one that stands for a place ends the
path with a slash. -/
def resolve (write : (kept : List String) → List Char → String) :
    (kept : List String) → List (List Char) → List String
  | kept, [] => kept
  | kept, [last] =>
    if isAbove last then leave kept ++ [""]
    else if isHere last then kept ++ [""]
    else kept ++ [write kept last]
  | kept, segment :: rest =>
    if isAbove segment then resolve write (leave kept) rest
    else if isHere segment then resolve write kept rest
    else resolve write (kept ++ [write kept segment]) rest

def writeSegment (segment : List Char) : String :=
  String.ofList (Percent.encode Percent.pathSet segment)

/-- At the root of a file path a drive letter is written with a colon. -/
def writeFileSegment (kept : List String) (segment : List Char) : String :=
  match kept, segment with
  | [], [c, '|'] => if c.isAlpha then String.ofList [c, ':'] else writeSegment segment
  | _, _ => writeSegment segment

def split (backslash : Bool) (text : List Char) : List (List Char) :=
  text.splitOnP fun c => c == '/' || (backslash && c == '\\')

/-- The segments that a text adds to those above it. -/
def add (backslash : Bool) (kept : List String) (text : List Char) : List String :=
  resolve (fun _ => writeSegment) kept (split backslash text)

def ofFileText (text : List Char) : List String := resolve writeFileSegment [] (split true text)

/-- Drops the empty segments at the root of a file path. -/
def dropEmptyRoots (segments : List String) : List String :=
  match segments.dropWhile (·.isEmpty) with
  | [] => [""]
  | rest => rest

/-- Drops an empty last segment after another one. -/
def dropEmptyLast : List String → List String
  | [] => []
  | [only] => [only]
  | segments => if segments.getLast? == some "" then segments.dropLast else segments

/-- Characters that are dropped wherever they stand in a URL. -/
def isTabOrBreak (c : Char) : Bool := c == '\t' || c == '\n' || c == '\r'

/-- Appends one segment as it is given, whatever characters it holds. Tabs and line ends are
dropped, and a segment that stands for a place is skipped, or resolved if it does so only then. -/
def push (set : List Char) (segments : List String) (segment : String) : List String :=
  if segment == "." || segment == ".." then segments
  else
    let kept := if segments == [""] then [] else segments
    match segment.toList.filter (!isTabOrBreak ·) with
    | ['.'] => kept ++ [""]
    | ['.', '.'] => leave kept ++ [""]
    | text => kept ++ [String.ofList (Percent.encode set text)]

end Path
end CachePurge.Url
