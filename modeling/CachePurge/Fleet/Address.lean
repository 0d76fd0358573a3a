import CachePurge.Url.Read

/-!
Edge addresses `host[:port]`: the URLs of an edge node's own endpoints, and a page's URL pointed at
an edge node. The host and port that a page's URL names are kept, to be told to the node.
-/

namespace CachePurge.Fleet

def edgeUrl (address path : String) : Except UrlError Url := do
  (← Url.parse ("http://" ++ address)).resolve path

def parseAddress (address : String) : Except UrlError (String × Option UInt16) := do
  let url ← Url.parse ("http://" ++ address)
  match url.host with
  | some host => return (host.toText, url.port)
  | none => .error .emptyHost

/-- A page's URL as an edge node is asked for it. -/
structure Routed where
  target : Url
  /-- Host and port that the page's URL names. -/
  forwardedHost : String
  deriving DecidableEq

/-- The page's own host and port, if its URL names a host. -/
def origin (url : String) : Except UrlError (Url × String) := do
  let url ← Url.parse url
  match url.hostAndPort with
  | some text => return (url, text)
  | none => .error .emptyHost

/-- A page's URL over plain http where that is asked for. -/
def overHttpIf (plainHttp : Bool) (url : Url) : Except UrlError Url :=
  if plainHttp then
    match url.overHttp? with
    | some url => .ok url
    | none => .error .relativeWithoutBase
  else .ok url

/-- Points a page's URL at an edge node, which `plainHttp` asks over plain http. -/
def route (url address : String) (plainHttp : Bool) : Except UrlError Routed := do
  let (url, forwardedHost) ← origin url
  let url ← overHttpIf plainHttp url
  let (host, port) ← parseAddress address
  let url ← url.withHostText host
  let url ← url.withPort port
  return ⟨url, forwardedHost⟩

end CachePurge.Fleet
