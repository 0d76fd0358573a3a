import CachePurge.Url.Basic

/-!
HTTP requests as they are given to a client, the messages that a client puts on the network, and
what becomes of them there.
-/

namespace CachePurge

namespace Header

def isValueChar (c : Char) : Bool := c == '\t' || (' ' ≤ c && c != '\x7f')

/-- Any text without control characters may be the value of a header, a tab excepted. -/
def isValue (text : String) : Bool := text.toList.all isValueChar

end Header

namespace Http

structure Request where
  method : String
  url : Url
  headers : List (String × String)
  deriving DecidableEq

/-- A request on its way: its URL holds neither user nor fragment. -/
structure Message where
  method : String
  url : Url
  headers : List (String × String)
  /-- Whether the client accepts any certificate. -/
  trusting : Bool
  deriving DecidableEq

/-- What a client gets back in the end, the redirects it follows being part of the exchange. A
response may break off inside its body. -/
inductive Reply where
  | silence
  | response (status : Nat) (body : List UInt8)
  | brokenOff (status : Nat)
  deriving DecidableEq, Repr

/-- What became of a message, after how many milliseconds, and whether the other end saw it. -/
structure Delivery where
  seen : Bool
  took : Nat
  reply : Reply
  deriving DecidableEq, Repr

def isSuccess (status : Nat) : Bool := 200 ≤ status && status < 300

end Http
end CachePurge
