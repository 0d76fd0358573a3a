import CachePurge.Gate
import CachePurge.Http.Rules
import CachePurge.Settings.Fleet
import CachePurge.Surroundings

/-!
Surroundings for a rehearsal: a platform whose answers stay as they are set, a clock that only moves
when it is moved, and a network that answers by rules.
-/

namespace CachePurge

structure Rehearsal where
  edgeAddresses : List String
  siteIdentifier : String
  vendorSettings : Option VendorSettings
  /-- Nanoseconds since the start of 1970. -/
  now : Nat
  network : Http.Network

namespace Rehearsal

/-- The start of the year 2026. -/
def opening : Nat := Gate.nanosOfSeconds 1767225600

def ofFleet (s : FleetSettings) (network : Http.Network) : Rehearsal :=
  ⟨s.edgeAddresses, s.siteIdentifier, none, opening, network⟩

def deliver (message : Http.Message) : StateM Rehearsal Http.Delivery := fun r =>
  let (delivery, network) := r.network.deliver message
  (delivery, { r with network })

def surroundings : Surroundings Rehearsal where
  edgeAddresses := return (← get).edgeAddresses
  siteIdentifier := return (← get).siteIdentifier
  vendorSettings := return (← get).vendorSettings
  now := return (← get).now
  deliver := deliver

end Rehearsal
end CachePurge
