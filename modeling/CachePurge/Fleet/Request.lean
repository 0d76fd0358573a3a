import CachePurge.Fault
import CachePurge.Fleet.Address
import CachePurge.Http.Message
import CachePurge.Tag

/-!
Requests to edge nodes. A group of tags and the whole site are banned at endpoints of a node; a page
is asked for by its own URL, pointed at the node, under a method that purges or bans it.
-/

namespace CachePurge.Fleet

def ban : String := "BAN"
def purge : String := "PURGE"

/-- The digests of a group of tags. -/
def tagsHeader : String := "x-purge-tags"
/-- The tags of the group themselves. -/
def rawTagsHeader : String := "x-purge-tags-full"
def siteHeader : String := "x-purge-site"
/-- Host and port that the URL of a page names. -/
def forwardedHostHeader : String := "x-forwarded-host"

/-- Headers with texts that may stand in them. -/
def headers (pairs : List (String × String)) : Except Fault (List (String × String)) :=
  if pairs.all fun (_, value) => Header.isValue value then .ok pairs else .error .invalidHeader

def orInvalidUrl {α : Type} : Except UrlError α → Except Fault α
  | .ok a => .ok a
  | .error e => .error (.invalidUrl e)

def joined (texts : List String) : String := " ".intercalate texts

/-- Bans a group of tags, given with its digests. -/
def tagRequest (site : String) (digests tags : List String) (address : String) :
    Except Fault Http.Request := do
  let url ← orInvalidUrl (edgeUrl address "/tags")
  let headers ← headers [(tagsHeader, joined digests), (rawTagsHeader, joined tags),
    (siteHeader, site)]
  return ⟨ban, url, headers⟩

def siteRequest (site address : String) : Except Fault Http.Request := do
  let url ← orInvalidUrl (edgeUrl address "/site")
  let headers ← headers [(siteHeader, site)]
  return ⟨ban, url, headers⟩

/-- What is done to pages: purge one as its URL says, or ban a pattern of them over plain http. -/
structure PageMethod where
  method : String
  plainHttp : Bool
  deriving DecidableEq, Repr

def exact : PageMethod := ⟨purge, false⟩
def pattern : PageMethod := ⟨ban, true⟩

def pageRequest (m : PageMethod) (site url address : String) : Except Fault Http.Request := do
  let routed ← orInvalidUrl (route url address m.plainHttp)
  let headers ← headers [(forwardedHostHeader, routed.forwardedHost), (siteHeader, site)]
  return ⟨m.method, routed.target, headers⟩

end CachePurge.Fleet
