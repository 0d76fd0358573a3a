import CachePurge.Url.Basic

/-!
Reading URLs. Each part ends at the first character that begins a later one, so a text is cut into
its parts before any of them is read. A reference is read against the URL of a web page.
-/

namespace CachePurge.Url

/-- The text without blanks and control characters at its ends, and without any tab or line end. -/
def clean (text : String) : List Char :=
  let outer (c : Char) : Bool := c ≤ ' '
  let inner := ((text.toList.dropWhile outer).reverse.dropWhile outer).reverse
  inner.filter (!Path.isTabOrBreak ·)

def isSchemeChar (c : Char) : Bool := c.isAlphanum || c == '+' || c == '-' || c == '.'

/-- The scheme in lower case, and the text after its colon. -/
def readScheme (text : List Char) : Option (String × List Char) :=
  let (scheme, rest) := text.span isSchemeChar
  match scheme, rest with
  | first :: _, ':' :: rest =>
    if first.isAlpha then some (String.ofList (scheme.map Char.toLower), rest) else none
  | _, _ => none

def isSlash (backslash : Bool) (c : Char) : Bool := c == '/' || (backslash && c == '\\')

def endsAuthority (backslash : Bool) (c : Char) : Bool :=
  isSlash backslash c || c == '?' || c == '#'

/-- The text before the last character of a kind and the text after it. -/
def splitLast (mark : Char) (text : List Char) : Option (List Char × List Char) :=
  let back := text.reverse
  match back.dropWhile (· != mark) with
  | [] => none
  | _ :: before => some (before.reverse, (back.takeWhile (· != mark)).reverse)

def encodeUserinfo (text : List Char) : String :=
  String.ofList (Percent.encode Percent.userinfoSet text)

/-- User name and password around the first colon; an empty password is none. -/
def readUserinfo (text : List Char) : String × Option String :=
  let (name, rest) := text.span (· != ':')
  let password := rest.drop 1
  (encodeUserinfo name, if password.isEmpty then none else some (encodeUserinfo password))

/-- Where the host ends: at the first colon outside brackets. -/
def splitHost : (bracketed : Bool) → List Char → List Char × List Char
  | _, [] => ([], [])
  | bracketed, c :: rest =>
    if c == ':' && !bracketed then ([], c :: rest)
    else
      let bracketed := if c == '[' then true else if c == ']' then false else bracketed
      let (host, port) := splitHost bracketed rest
      (c :: host, port)

/-- The digits after the colon of an authority; a port that is the scheme's own is not kept. -/
def readPort (scheme : String) (digits : List Char) : Except UrlError (Option UInt16) :=
  let port := digits.foldl (fun n c => n * 10 + (c.toNat - 48)) 0
  if !digits.all Char.isDigit || 65535 < port then .error .invalidPort
  else if digits.isEmpty then .ok none
  else
    let port := some port.toUInt16
    .ok (if port == defaultPort scheme then none else port)

def readHost (scheme : String) (text : List Char) : Except UrlError (Option Host) :=
  match schemeKind scheme with
  | .other =>
    if text.isEmpty then .ok none else (Host.parsePlain text).map some
  | _ => if text.isEmpty then .error .emptyHost else (Host.parse text).map some

/-- User info and the text after it. A mark that sets off an empty user name at once from the path
makes no authority. -/
def splitUserinfo (text : List Char) (more : Bool) : Except UrlError (List Char × List Char) :=
  match splitLast '@' text with
  | none => .ok ([], text)
  | some ([], []) => if more then .error .emptyHost else .ok ([], [])
  | some parts => .ok parts

def readHostAndPort (scheme : String) (text : List Char) :
    Except UrlError (Option Host × Option UInt16) := do
  let (hostText, portText) := splitHost false text
  let host ← readHost scheme hostText
  if host.isNone && !portText.isEmpty then .error .emptyHost
  return (host, ← readPort scheme (portText.drop 1))

def readAuthority (scheme : String) (text : List Char) (more : Bool) :
    Except UrlError Authority := do
  let (userinfo, rest) ← splitUserinfo text more
  let (username, password) := readUserinfo userinfo
  let (host, port) ← readHostAndPort scheme rest
  if host.isNone && (!username.isEmpty || password.isSome) then .error .emptyHost
  return ⟨username, password, host, port⟩

def withoutUserinfo (authority : List Char) : List Char :=
  ((splitLast '@' authority).map (·.2)).getD authority

/-- The authority and the text after it. Behind the colon of a port a backslash always ends it. -/
def splitAuthority (web : Bool) (text : List Char) : List Char × List Char :=
  let (authority, rest) := text.span (!endsAuthority web ·)
  let extra := (splitHost false (withoutUserinfo authority)).2.dropWhile (· != '\\')
  (authority.take (authority.length - extra.length), extra ++ rest)

/-- The text before the first character of a kind, and the text after it if there is one. -/
def cut (mark : Char) (text : List Char) : List Char × Option (List Char) :=
  match text.span (· != mark) with
  | (before, []) => (before, none)
  | (before, _ :: after) => (before, some after)

/-- The text before the query, the query and the fragment. -/
def cutTail (scheme : String) (text : List Char) : List Char × Option String × Option String :=
  let (text, fragment) := cut '#' text
  let (text, query) := cut '?' text
  let querySet :=
    if schemeKind scheme == .other then Percent.querySet else Percent.specialQuerySet
  let write (set part : List Char) : String := String.ofList (Percent.encode set part)
  (text, query.map (write querySet), fragment.map (write Percent.fragmentSet))

def readAfterSlashes (scheme : String) (text : List Char) : Except UrlError Url := do
  let web := schemeKind scheme != .other
  let (authority, rest) := splitAuthority web text
  let authority ← readAuthority scheme authority !rest.isEmpty
  let (path, query, fragment) := cutTail scheme rest
  let segments :=
    match path with
    | [] => if web then [""] else []
    | first :: more => Path.add web [] (if isSlash web first then more else path)
  return ⟨scheme, some authority, .rooted segments, query, fragment⟩

/-- A URL with a scheme of its own and no authority; without a root its path is plain. -/
def readPlain (scheme : String) (text : List Char) : Url :=
  let (path, query, fragment) := cutTail scheme text
  let path :=
    match path with
    | '/' :: rest => .rooted (Path.add false [] rest)
    | _ => .plain (String.ofList (Percent.encode [] path))
  ⟨scheme, none, path, query, fragment⟩

/-- The host of a file; this machine is none, and a drive letter belongs to the path. -/
def readFileHost (text : List Char) : Except UrlError (Option Host) :=
  if text.isEmpty || Path.isDriveLetter text then .ok none
  else (Host.parse text).map fun host => if host == .domain "localhost" then none else some host

/-- A file's URL. The host gives way to a drive letter at the root. -/
def readFile (text : List Char) : Except UrlError Url := do
  let (path, query, fragment) := cutTail "file" text
  let (host, segments) ←
    match path with
    | a :: b :: rest =>
      if isSlash true a && isSlash true b then
        let hostText := rest.takeWhile (!isSlash true ·)
        let host ← readFileHost hostText
        let path := if host.isSome then rest.drop (hostText.length + 1) else rest
        pure (host, Path.ofFileText path)
      else pure (none, Path.ofFileText (if isSlash true a then b :: rest else path))
    | [a] => pure (none, Path.ofFileText (if isSlash true a then [] else [a]))
    | [] => pure (none, [""])
  let host := if segments.head?.any fun s => Path.isDriveLetter s.toList then none else host
  let path := .rooted (Path.dropEmptyRoots segments)
  return ⟨"file", some ⟨"", none, host, none⟩, path, query, fragment⟩

/-- A reference without a scheme. Other slashes than two plain ones may open an authority too. -/
def readRelative (base : Url) (text : List Char) : Except UrlError Url :=
  let (path, query, fragment) := cutTail base.scheme text
  match base.path, path with
  | .plain _, _ => .error .relativeToPlain
  | .rooted _, [] =>
    .ok { base with query := if query.isSome then query else base.query, fragment }
  | .rooted _, '/' :: '/' :: _ => readAfterSlashes base.scheme (text.drop 2)
  | .rooted own, a :: rest =>
    if isSlash true a && rest.head?.any (isSlash true) then
      readAfterSlashes base.scheme (text.dropWhile (isSlash true))
    else
      let segments :=
        if isSlash true a then Path.add true [] rest else Path.add true own.dropLast path
      .ok { base with path := .rooted segments, query, fragment }

def readWithScheme (base : Option Url) (scheme : String) (text : List Char) :
    Except UrlError Url :=
  match schemeKind scheme with
  | .file => readFile text
  | .other =>
    match text with
    | '/' :: '/' :: rest => readAfterSlashes scheme rest
    | _ => .ok (readPlain scheme text)
  | .web =>
    let (slashes, rest) := text.span (isSlash true)
    match base with
    | some base =>
      if slashes.length < 2 && base.scheme == scheme then readRelative base text
      else readAfterSlashes scheme rest
    | none => readAfterSlashes scheme rest

def parse (text : String) : Except UrlError Url :=
  match readScheme (clean text) with
  | some (scheme, rest) => readWithScheme none scheme rest
  | none => .error .relativeWithoutBase

/-- Reads a reference against the URL of a web page. -/
def resolve (base : Url) (reference : String) : Except UrlError Url :=
  let text := clean reference
  match readScheme text with
  | some (scheme, rest) => readWithScheme (some base) scheme rest
  | none => readRelative base text

end CachePurge.Url
