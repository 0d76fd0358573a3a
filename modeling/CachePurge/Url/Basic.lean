import CachePurge.Host.Basic
import CachePurge.Url.Path

/-!
URLs as their parts, the text of a URL, and the changes that keep it one: another host, another
port, plain http, more path segments.
-/

namespace CachePurge

namespace Url

/-- What a scheme says about the rest of the URL: some schemes need a host, `file` may have one, and
all others leave the authority open. -/
inductive SchemeKind where
  | web
  | file
  | other
  deriving DecidableEq

def defaultPort : String → Option UInt16
  | "http" | "ws" => some 80
  | "https" | "wss" => some 443
  | "ftp" => some 21
  | _ => none

def schemeKind (scheme : String) : SchemeKind :=
  if scheme == "file" then .file else if (defaultPort scheme).isSome then .web else .other

/-- User name, password and port are written only where there are some; the host may be missing. -/
structure Authority where
  username : String
  password : Option String
  host : Option Host
  port : Option UInt16
  deriving DecidableEq

end Url

structure Url where
  scheme : String
  authority : Option Url.Authority
  path : Url.Path
  query : Option String
  fragment : Option String
  deriving DecidableEq

namespace Url

def kind (url : Url) : SchemeKind := schemeKind url.scheme

def host (url : Url) : Option Host := url.authority.bind (·.host)

def port (url : Url) : Option UInt16 := url.authority.bind (·.port)

def portText : Option UInt16 → String
  | none => ""
  | some port => ":" ++ Nat.repr port.toNat

/-- Host and port as a request names them. -/
def hostAndPort (url : Url) : Option String :=
  url.host.map fun host => host.toText ++ portText url.port

def Authority.userinfoText (a : Authority) : String :=
  match a.password with
  | some password => a.username ++ ":" ++ password ++ "@"
  | none => if a.username.isEmpty then "" else a.username ++ "@"

def Authority.toText (a : Authority) : String :=
  a.userinfoText ++ (a.host.map Host.toText).getD "" ++ portText a.port

def marked (mark : String) : Option String → String
  | none => ""
  | some text => mark ++ text

/-- A path that begins with an empty segment is set off from the scheme, so that it does not read as
an authority. -/
def rootMark : Option Authority → Path → String
  | none, .rooted ("" :: _ :: _) => "/."
  | _, _ => ""

def toText (url : Url) : String :=
  url.scheme ++ ":" ++ marked "//" (url.authority.map Authority.toText) ++
    rootMark url.authority url.path ++ url.path.toText ++ marked "?" url.query ++
    marked "#" url.fragment

def withoutFragment (url : Url) : Url := { url with fragment := none }

/-- The host that a text names in URLs of a kind. -/
def hostOf : SchemeKind → List Char → Except UrlError Host
  | .other => Host.parsePlain
  | _ => Host.parse

def withHostText (url : Url) (text : String) : Except UrlError Url := do
  let host ← hostOf url.kind text.toList
  return { url with authority := url.authority.map ({ · with host := some host }) }

/-- A port that is the scheme's own is not written; a file or a URL without host has none. -/
def withPort (url : Url) (port : Option UInt16) : Except UrlError Url :=
  if url.host.isNone || url.kind == .file then .error .invalidPort
  else
    let port := if port == defaultPort url.scheme then none else port
    .ok { url with authority := url.authority.map ({ · with port }) }

/-- The URL with the scheme `http`, if its scheme can be traded for it; a port that becomes the
scheme's own is no longer written. -/
def overHttp? (url : Url) : Option Url :=
  if url.kind == .other || url.host.isNone then none
  else
    let port := if url.port == some 80 then none else url.port
    some { url with scheme := "http", authority := url.authority.map ({ · with port }) }

def segmentSet (url : Url) : List Char :=
  if url.kind == .other then Percent.segmentSet else Percent.specialSegmentSet

/-- Appends segments to a path that has some, after an empty last one is dropped. -/
def appendSegments? (url : Url) (segments : List String) : Option Url :=
  match url.path with
  | .plain _ => none
  | .rooted own =>
    let all := segments.foldl (Path.push url.segmentSet) (Path.dropEmptyLast own)
    some { url with path := .rooted all }

end Url
end CachePurge
