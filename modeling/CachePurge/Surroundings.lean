import CachePurge.Fault
import CachePurge.Http.Client
import CachePurge.Invalidation.Basic
import CachePurge.Settings.Vendor
import CachePurge.Tally

/-!
What a purger meets outside: the platform that it asks for its settings, the clock, and the network.
Each may answer differently every time, out of a state that the purger does not see. What a purger
does leaves a ledger: its counters and a trace of events.
-/

namespace CachePurge

structure Surroundings (ε : Type) where
  edgeAddresses : StateM ε (List String)
  siteIdentifier : StateM ε String
  vendorSettings : StateM ε (Option VendorSettings)
  /-- Nanoseconds since the start of 1970. -/
  now : StateM ε Nat
  deliver : Http.Message → StateM ε Http.Delivery

inductive Event where
  | enter (handler : Kind)
  | exit (handler : Kind)
  /-- A request was given to the client, and perhaps a message of it was seen at the other end. -/
  | request (request : Http.Request) (seen : Option Http.Message)
  | failed (key : String) (fault : Fault)

structure Ledger (ε : Type) where
  tally : Tally
  trace : List Event
  outside : ε

namespace Ledger

variable {ε : Type}

def start (outside : ε) : Ledger ε := ⟨.zero, [], outside⟩

def note (event : Event) : StateM (Ledger ε) Unit :=
  modify fun l => { l with trace := l.trace ++ [event] }

def noteFailed (key : String) (fault : Fault) : StateM (Ledger ε) Unit := note (.failed key fault)

def count (success : Bool) (n : Nat) : StateM (Ledger ε) Unit :=
  modify fun l => { l with tally := l.tally.outcome success n }

def countRequest (success : Bool) (latency : Latency) : StateM (Ledger ε) Unit :=
  modify fun l => { l with tally := l.tally.request success latency }

/-- Asks the surroundings something. -/
def ask {α : Type} (question : StateM ε α) : StateM (Ledger ε) α := fun l =>
  let (answer, outside) := question l.outside
  (answer, { l with outside })

/-- Does something between the events that a handler is entered and left. -/
def within {α : Type} (handler : Kind) (body : StateM (Ledger ε) α) : StateM (Ledger ε) α := do
  note (.enter handler)
  let result ← body
  note (.exit handler)
  return result

/-- Gives a request to the client: what comes of it, and after how many milliseconds. -/
def send (s : Surroundings ε) (trusting : Bool) (request : Http.Request) :
    StateM (Ledger ε) (Except ClientFault Http.Response × Nat) := do
  match Http.prepare trusting request with
  | .error fault =>
    note (.request request none)
    return (.error fault, 0)
  | .ok message =>
    let delivery ← ask (s.deliver message)
    note (.request request (if delivery.seen then some message else none))
    return (Http.receive request delivery.reply, delivery.took)

end Ledger
end CachePurge
