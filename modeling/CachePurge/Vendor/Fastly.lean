import CachePurge.Gate
import CachePurge.Http.Message
import CachePurge.Json.Read
import CachePurge.Settings.Vendor
import CachePurge.Surroundings
import CachePurge.Tag
import CachePurge.Url.Read

/-!
The purge API of Fastly. Tags are purged by their digests in one request, a page by its own URL, and
the whole site by the digest that every response carries beside those of its tags. Some answers are
faults of the service as a whole: they close the gate for hours, and while it is closed nothing is
sent.
-/

namespace CachePurge

/-- Whether a text stands somewhere inside another. -/
def Search.occursIn (needle : List Char) : List Char → Bool
  | [] => needle.isEmpty
  | c :: rest => needle.isPrefixOf (c :: rest) || occursIn needle rest

namespace Vendor

structure Fastly where
  apiBase : Url
  serviceId : String
  token : String
  site : String

namespace Fastly

def name : String := "fastly"
def defaultApiBase : String := "https://api.fastly.com"
/-- The header by which responses carry their digests. -/
def responseHeader : String := "Surrogate-Key"
def keysHeader : String := "surrogate-key"
def tokenHeader : String := "fastly-key"

def validates (s : VendorSettings) : Bool :=
  (s.setting? "service_id").isSome && (s.setting? "token").isSome

def missing (setting : String) : Fault := .configuration (name ++ ": missing " ++ setting)

def ofSettings (s : VendorSettings) (site : String) : Except Fault Fastly :=
  match s.setting? "service_id", s.setting? "token" with
  | none, _ => .error (missing "service_id")
  | _, none => .error (missing "token")
  | some serviceId, some token =>
    match Url.parse ((s.setting? "api_base").getD defaultApiBase) with
    | .ok apiBase => .ok ⟨apiBase, serviceId, token, site⟩
    | .error e => .error (.invalidUrl e)

def digests (v : Fastly) (tags : List String) : List String := tags.map (Tag.digest v.site)

/-- What a response with some tags carries: their digests and that of the site. -/
def headerValue (v : Fastly) (tags : List String) : String :=
  " ".intercalate (v.digests tags ++ [Tag.siteDigest v.site])

/-- The URL of the purge endpoint of the service, or of one of its keys. -/
def endpoint (v : Fastly) (segments : List String) : Except Fault Url :=
  match v.apiBase.appendSegments? (["service", v.serviceId, "purge"] ++ segments) with
  | some url => .ok url
  | none => .error (.configuration (name ++ ": api_base cannot be a base"))

/-- A request with the token, if that may stand in a header. -/
def request (v : Fastly) (method : String) (url : Url) : Except Fault Http.Request :=
  if Header.isValue v.token then
    .ok ⟨method, url, [(tokenHeader, v.token), ("accept", "application/json")]⟩
  else .error .invalidHeader

def tagsRequest (v : Fastly) (tags : List String) : Except Fault Http.Request := do
  let url ← v.endpoint []
  let request ← v.request "POST" url
  let keys := " ".intercalate (v.digests tags)
  return { request with headers := (keysHeader, keys) :: request.headers }

def pageRequest (v : Fastly) (url : String) : Except Fault Http.Request :=
  match Url.parse url with
  | .ok url => v.request "PURGE" url
  | .error e => .error (.invalidUrl e)

def siteRequest (v : Fastly) : Except Fault Http.Request := do
  v.request "POST" (← v.endpoint [Tag.siteDigest v.site])

def credentialsFault : String := "Provided credentials are missing or invalid"
def notFoundFault : String := "Record not found"

/-- For how many nanoseconds a message of the service closes the gate, if it does. -/
def closureOf (message : String) : Option Nat :=
  if Search.occursIn credentialsFault.toList message.toList then
    some (Gate.nanosOfSeconds (24 * 60 * 60))
  else if Search.occursIn notFoundFault.toList message.toList then
    some (Gate.nanosOfSeconds (12 * 60 * 60))
  else none

/-- The text of a response, whose body the client gives in UTF-8 whatever it was sent in; a mark of
its byte order is no part of it. -/
def textOf (body : List UInt8) : String :=
  match Utf8.decodeLossy body with
  | '\ufeff' :: rest => String.ofList rest
  | text => String.ofList text

def payload? (body : List UInt8) : Option Json :=
  match Json.parse (textOf body) with
  | .ok j => some j
  | .error _ => none

/-- The message and the duration of the closure that a response asks for. -/
def systemicFault? (payload : Option Json) : Option (String × Nat) := do
  let message ← ((← payload).member? "msg").bind Json.asString?
  let ttl ← closureOf message
  return (name ++ ": " ++ message, ttl)

/-- What a response that is no fault of the service comes to. -/
def judge (target : String) (status : Nat) (payload : Option Json) : Except Fault Json :=
  if !Http.isSuccess status then .error (.unexpectedStatus target status)
  else match payload with
    | some j => .ok j
    | none => .error (.malformedResponse ("non-JSON body from " ++ target))

def saysOk (payload : Json) : Bool :=
  (payload.member? "status").bind Json.asString? == some "ok"

end Fastly

/-- A ledger beside the gate that the vendor's faults close. -/
structure GatedLedger (ε : Type) where
  ledger : Ledger ε
  gate : Gate

namespace GatedLedger

variable {ε : Type}

def onLedger {α : Type} (body : StateM (Ledger ε) α) : StateM (GatedLedger ε) α := fun g =>
  let (a, ledger) := body g.ledger
  (a, { g with ledger })

def health (s : Surroundings ε) : StateM (GatedLedger ε) (Option String) := do
  let now ← onLedger (Ledger.ask s.now)
  return (← get).gate.health now

def closeGate (s : Surroundings ε) (message : String) (ttl : Nat) :
    StateM (GatedLedger ε) Unit := do
  let now ← onLedger (Ledger.ask s.now)
  modify fun g => { g with gate := .close now message ttl }

end GatedLedger

namespace Fastly

variable {ε : Type}

/-- Reads a response, and closes the gate if it is a fault of the service. -/
def inspect (s : Surroundings ε) (target : String) (status : Nat) (body : List UInt8) :
    StateM (GatedLedger ε) (Except Fault Json) := do
  let payload := payload? body
  match systemicFault? payload with
  | some (message, ttl) =>
    GatedLedger.closeGate s message ttl
    return .error (.vendorFault message)
  | none => return judge target status payload

def exchange (s : Surroundings ε) (request : Http.Request) :
    StateM (GatedLedger ε) (Except Fault Json) := do
  let (reply, took) ← GatedLedger.onLedger (Ledger.send s false request)
  let outcome ← match reply with
    | .error fault => pure (.error (.client fault))
    | .ok response =>
      match response.body with
      | .error fault => pure (.error (.client fault))
      | .ok body => inspect s request.url.toText response.status body
  GatedLedger.onLedger (Ledger.countRequest outcome.isOk took.toFloat.toBits)
  return outcome

/-- Makes a request that perhaps could not be built. -/
def exchange? (s : Surroundings ε) (request : Except Fault Http.Request) :
    StateM (GatedLedger ε) (Except Fault Json) :=
  match request with
  | .ok request => exchange s request
  | .error fault => return .error fault

/-- How a whole batch ends by one answer. Only a fault of the vendor leaves it to the caller. -/
def settleBatch (accepts : Json → Bool) (outcome : Except Fault Json)
    (batch : List Invalidation) : List Invalidation × Option Fault :=
  match outcome with
  | .ok payload => (batch.map (Invalidation.settle (accepts payload)), none)
  | .error (.vendorFault message) => (batch, some (.vendorFault message))
  | .error _ => (batch.map (Invalidation.settle false), none)

def unlessClosed (s : Surroundings ε) (batch : List Invalidation)
    (body : StateM (GatedLedger ε) (List Invalidation × Option Fault)) :
    StateM (GatedLedger ε) (List Invalidation × Option Fault) := do
  match ← GatedLedger.health s with
  | some message => return (batch, some (.vendorFault message))
  | none => body

def purgeTags (v : Fastly) (s : Surroundings ε) (batch : List Invalidation) :
    StateM (GatedLedger ε) (List Invalidation × Option Fault) :=
  unlessClosed s batch do
    if batch.isEmpty then return (batch, none)
    let outcome ← exchange? s (v.tagsRequest (batch.map (·.expression)))
    return settleBatch Json.isObject outcome batch

/-- Purges pages one by one, up to the first fault of the vendor. -/
def purgePagesFrom (v : Fastly) (s : Surroundings ε) : List Invalidation →
    StateM (GatedLedger ε) (List Invalidation × Option Fault)
  | [] => return ([], none)
  | inv :: rest => do
    match ← exchange? s (v.pageRequest inv.expression) with
    | .error (.vendorFault message) => return (inv :: rest, some (.vendorFault message))
    | outcome =>
      let success := match outcome with
        | .ok payload => saysOk payload
        | .error _ => false
      let (rest, fault) ← purgePagesFrom v s rest
      return (inv.settle success :: rest, fault)

def purgePages (v : Fastly) (s : Surroundings ε) (batch : List Invalidation) :
    StateM (GatedLedger ε) (List Invalidation × Option Fault) :=
  unlessClosed s batch (purgePagesFrom v s batch)

def purgeSite (v : Fastly) (s : Surroundings ε) (batch : List Invalidation) :
    StateM (GatedLedger ε) (List Invalidation × Option Fault) :=
  unlessClosed s batch do
    if batch.isEmpty then return (batch, none)
    let outcome ← exchange? s v.siteRequest
    return settleBatch saysOk outcome batch

end Fastly
end Vendor
end CachePurge
