import CachePurge.Observer
import CachePurge.Purger.Basic
import CachePurge.Vendor.Selection

/-!
The purger of a CDN vendor, which hands every batch to the vendor's backend. The backend is chosen
on first use, and again on each use until there is one; then it stays. What goes wrong there fails
the batch but not the call.
-/

namespace CachePurge.Vendor

variable {ε : Type}

/-- The gated ledger of a purger, and its backend once that is chosen. -/
structure Forwarder (ε : Type) where
  gated : GatedLedger ε
  backend : Option Backend

namespace Forwarder

def start (outside : ε) : Forwarder ε := ⟨⟨.start outside, .clear⟩, none⟩

def onGated {α : Type} (body : StateM (GatedLedger ε) α) : StateM (Forwarder ε) α := fun f =>
  let (a, gated) := body f.gated
  (a, { f with gated })

def onLedger {α : Type} (body : StateM (Ledger ε) α) : StateM (Forwarder ε) α :=
  onGated (GatedLedger.onLedger body)

end Forwarder

def noBackend : Fault := .configuration "no usable CDN vendor backend configured"

/-- The backend chosen earlier, or else the one that the platform's settings make now. -/
def resolve (s : Surroundings ε) : StateM (Forwarder ε) (Option Backend) := do
  match (← get).backend with
  | some backend => return some backend
  | none =>
    let settings ← Forwarder.onLedger (Ledger.ask s.vendorSettings)
    let site ← Forwarder.onLedger (Ledger.ask s.siteIdentifier)
    let backend := select settings site
    modify fun f => { f with backend }
    return backend

/-- The backend's handler for a kind; patterns of pages have none. -/
def operation? : Kind → Option (Backend → Surroundings ε → List Invalidation →
    StateM (GatedLedger ε) (List Invalidation × Option Fault))
  | .tag => some Fastly.purgeTags
  | .url => some Fastly.purgePages
  | .everything => some Fastly.purgeSite
  | .wildcardUrl => none

def countSettled (batch : List Invalidation) : StateM (Forwarder ε) Unit := do
  let succeeded := (batch.filter fun inv => inv.state = .succeeded).length
  Forwarder.onLedger (Ledger.count true succeeded)
  Forwarder.onLedger (Ledger.count false (batch.length - succeeded))

/-- Hands a batch to the backend. What a fault of the vendor leaves open has failed. -/
def forward (s : Surroundings ε) (kind : Kind)
    (operation : Backend → Surroundings ε → List Invalidation →
      StateM (GatedLedger ε) (List Invalidation × Option Fault))
    (batch : List Invalidation) : StateM (Forwarder ε) (List Invalidation × Ending) := do
  match ← resolve s with
  | none =>
    Forwarder.onLedger (Ledger.count false batch.length)
    return (batch.map Invalidation.fail, .failed noBackend)
  | some backend =>
    let (batch, fault) ← Forwarder.onGated (operation backend s (batch.map Invalidation.process))
    let batch ← match fault with
      | none => pure batch
      | some fault => do
        Forwarder.onLedger (Ledger.noteFailed kind.handlerName fault)
        pure (batch.map Invalidation.fail)
    countSettled batch
    return (batch, .done)

def purgerName : String := "vendor_cdn"

/-- The names of operations, which handlers are entered under; patterns of pages have no handler. -/
def scope? : Kind → Option String
  | .tag => some "invalidate_tags"
  | .url => some "invalidate_urls"
  | .wildcardUrl => none
  | .everything => some "invalidate_everything"

/-- What an observer of the purger was told. -/
def Forwarder.notices (f : Forwarder ε) : List Notice := f.gated.ledger.notices scope?

def purger (s : Surroundings ε) : Purger (Forwarder ε) where
  name := purgerName
  supported := [.tag, .url, .everything]
  handle kind batch := do
    match operation? kind with
    | none => return (batch.map (·.state), .panicked (Purger.unsupported purgerName kind))
    | some operation =>
      Forwarder.onLedger (Ledger.note (.enter kind))
      let (batch, ending) ← forward s kind operation batch
      Forwarder.onLedger (Ledger.note (.exit kind))
      return (batch.map (·.state), ending)

end CachePurge.Vendor
