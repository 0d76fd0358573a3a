import CachePurge.Fault
import CachePurge.Http.Message
import CachePurge.Text.Base64

/-!
The HTTP client: which requests it refuses, and how it puts the others on the network. User name and
password leave the URL for a header of their own.
-/

namespace CachePurge.Http

structure Credentials where
  username : List Char
  password : Option (List Char)
  deriving DecidableEq

def Credentials.headerValue (c : Credentials) : String :=
  let text := String.ofList (c.username ++ ':' :: c.password.getD [])
  "Basic " ++ String.ofList (Base64.encode (utf8 text))

/-- User name and password of a URL, unless they stand for no text. -/
def credentials? (url : Url) : Option Credentials := do
  let authority ← url.authority
  let username ← Utf8.decode? (Percent.decode authority.username.toList)
  let password := authority.password.bind fun p => Utf8.decode? (Percent.decode p.toList)
  if username.isEmpty && password.isNone then none else some ⟨username, password⟩

def withoutUserinfo (url : Url) : Url :=
  { url with authority := url.authority.map ({ · with username := "", password := none }) }

/-- Characters that a host may hold and a request line may not. -/
def unsendable : List Char := ['"', '\x60', '\x7b', '\x7d']

def maxUrlLength : Nat := 65534

def isSendable (url : Url) : Bool :=
  (url.scheme == "http" || url.scheme == "https") &&
    !(url.host.any fun host => host.toText.toList.any unsendable.contains) &&
    url.toText.length ≤ maxUrlLength

/-- The URL by which the client reports on a request, and the credentials that it took out of it. -/
def takeCredentials (url : Url) : Url × Option Credentials :=
  match credentials? url with
  | none => (url, none)
  | some c => (withoutUserinfo url, some c)

def prepare (trusting : Bool) (request : Request) : Except ClientFault Message :=
  let (url, credentials) := takeCredentials request.url
  if isSendable url then
    let headers := match credentials with
      | some c => ("authorization", c.headerValue) :: request.headers
      | none => request.headers
    .ok ⟨request.method, (withoutUserinfo url).withoutFragment, headers, trusting⟩
  else .error (.refused url.toText)

/-- A response, with its body unless that broke off. -/
structure Response where
  status : Nat
  body : Except ClientFault (List UInt8)

/-- What the client makes of a reply to a request. -/
def receive (request : Request) (reply : Reply) : Except ClientFault Response :=
  let url := (takeCredentials request.url).1.toText
  match reply with
  | .silence => .error (.notSent url)
  | .response status body => .ok ⟨status, .ok body⟩
  | .brokenOff status => .ok ⟨status, .error (.bodyLost url)⟩

end CachePurge.Http
