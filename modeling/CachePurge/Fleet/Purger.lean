import CachePurge.Fanout.Run
import CachePurge.Fleet.Request
import CachePurge.Observer
import CachePurge.Purger.Basic
import CachePurge.Settings.Fleet

/-!
The purger of an edge fleet. Each group of tags and each page is sent to every edge address and
succeeds only if every one of them acknowledges it; so does the whole site, address by address.
-/

namespace CachePurge.Fleet

variable {ε : Type}

/-- How the purger sends: how many tags in a request, and how many requests at once. -/
structure Pace where
  groupSize : Nat
  concurrency : Nat
  deriving DecidableEq, Repr

def Pace.ofSettings (s : FleetSettings) : Pace :=
  ⟨(max s.tagGroupSize 1).toNat, (max s.concurrency 1).toNat⟩

/-- Makes one request of a kind that any certificate will do for. A status other than success is a
fault. -/
def exchange (s : Surroundings ε) (request : Except Fault Http.Request) :
    StateM (Ledger ε) (Nat × Fanout.Outcome) := do
  match request with
  | .error fault => return (0, .failed fault)
  | .ok request =>
    let (reply, took) ← Ledger.send s true request
    match reply with
    | .error fault => return (took, .failed (.client fault))
    | .ok response =>
      if Http.isSuccess response.status then return (took, .answered)
      else return (took, .failed (.unexpectedStatus request.url.toText response.status))

def attempt {κ : Type} (s : Surroundings ε) (key : κ) (request : Except Fault Http.Request) :
    StateM (Ledger ε) (Fanout.Attempt κ) := do
  let (took, outcome) ← exchange s request
  return ⟨key, took, outcome⟩

/-- Makes requests under keys, counts them, and notes the failures under the labels of the keys. -/
def fanOut {κ : Type} (s : Surroundings ε) (concurrency : Nat) (label : κ → String)
    (requests : List (κ × Except Fault Http.Request)) :
    StateM (Ledger ε) (Except Panic (Fanout.Results κ)) := do
  match ← Fanout.run concurrency (requests.map fun (key, request) => attempt s key request) with
  | .error panic => return .error panic
  | .ok ended =>
    modify fun l => { l with
      tally := Fanout.count l.tally ended
      trace := l.trace ++
        (Fanout.failures ended).map fun (key, fault) => .failed (label key) fault }
    return .ok (Fanout.results ended)

def isSendable (inv : Invalidation) : Bool := Tag.isValid inv.expression

def admitTag (inv : Invalidation) : Invalidation :=
  if isSendable inv then inv.process else inv.fail

/-- Marks the tags that can be sent as being processed, and fails and counts the others. -/
def admitTags (batch : List Invalidation) : StateM (Ledger ε) (List Invalidation) :=
  batch.mapM fun inv => do
    unless isSendable inv do
      Ledger.count false 1
    return admitTag inv

/-- The requests for groups of tags under the number of the group, group by group and in each
address by address. -/
def tagRequests (site : String) (addresses : List String)
    (groups : List (List String × List String)) : List (Nat × Except Fault Http.Request) :=
  groups.zipIdx.flatMap fun ((digests, tags), i) =>
    addresses.map fun address => (i, tagRequest site digests tags address)

/-- Settles and counts groups of tags by the results under their numbers. -/
def settleTags (groups : List (List Invalidation)) (results : Fanout.Results Nat)
    (batch : List Invalidation) : StateM (Ledger ε) (List Invalidation) := do
  let settled := groups.zipIdx.map fun (group, i) => (group.length, results.succeeded i)
  settled.forM fun (size, success) => Ledger.count success size
  let states := settled.flatMap fun (size, success) =>
    List.replicate size (State.ofSuccess success)
  return Invalidation.advanceEach isSendable batch states

def banGroups (s : Surroundings ε) (pace : Pace) (salt : String)
    (groups : List (List Invalidation)) (batch : List Invalidation) :
    StateM (Ledger ε) (List Invalidation × Ending) := do
  let addresses ← Ledger.ask s.edgeAddresses
  let site ← Ledger.ask s.siteIdentifier
  let written := groups.map fun group =>
    let tags := group.map (·.expression)
    (tags.map (Tag.digest salt), tags)
  match ← fanOut s pace.concurrency Nat.repr (tagRequests site addresses written) with
  | .error panic => return (batch, .panicked panic)
  | .ok results => return (← settleTags groups results batch, .done)

def purgeTags (s : Surroundings ε) (pace : Pace) (batch : List Invalidation) :
    StateM (Ledger ε) (List Invalidation × Ending) := do
  let batch ← admitTags batch
  let salt ← Ledger.ask s.siteIdentifier
  let groups := groupsOf pace.groupSize (batch.filter isSendable)
  if groups.isEmpty then return (batch, .done)
  else banGroups s pace salt groups batch

/-- Whether a URL names a host that it can be asked for at. -/
def isRoutable (expression : String) : Bool :=
  match Url.parse expression with
  | .ok url => url.hostAndPort.isSome
  | .error _ => false

def admitPage (inv : Invalidation) : Invalidation :=
  if isRoutable inv.expression then inv.process else inv.fail

/-- The requests for pages under their ids, page by page and for each address by address. -/
def pageRequests (m : PageMethod) (site : String) (addresses : List String)
    (pages : List (Uuid × String)) : List (Uuid × Except Fault Http.Request) :=
  pages.flatMap fun (id, url) => addresses.map fun address => (id, pageRequest m site url address)

/-- Settles and counts those that are not settled yet by the results under their ids. -/
def settlePages (results : Fanout.Results Uuid) (batch : List Invalidation) :
    StateM (Ledger ε) (List Invalidation) :=
  batch.mapM fun inv => do
    if inv.isTerminal then return inv
    else
      let success := results.succeeded inv.id
      Ledger.count success 1
      return inv.settle success

def purgePages (s : Surroundings ε) (pace : Pace) (m : PageMethod) (batch : List Invalidation) :
    StateM (Ledger ε) (List Invalidation × Ending) := do
  let addresses ← Ledger.ask s.edgeAddresses
  let site ← Ledger.ask s.siteIdentifier
  let batch := batch.map admitPage
  let pages := (batch.filter fun inv => isRoutable inv.expression).map fun inv =>
    (inv.id, inv.expression)
  match ← fanOut s pace.concurrency Uuid.toText (pageRequests m site addresses pages) with
  | .error panic => return (batch, .panicked panic)
  | .ok results => return (← settlePages results batch, .done)

/-- Bans the site at one address, and tells whether that was acknowledged. -/
def purgeSiteAt (s : Surroundings ε) (site address : String) : StateM (Ledger ε) Bool := do
  let (took, outcome) ← exchange s (siteRequest site address)
  Ledger.countRequest outcome.isSuccess took.toFloat.toBits
  match outcome.fault? with
  | some fault =>
    Ledger.noteFailed address fault
    return false
  | none => return true

/-- Bans the site at every address, also after a failure. -/
def purgeSite (s : Surroundings ε) (batch : List Invalidation) :
    StateM (Ledger ε) (List Invalidation × Ending) := do
  let batch := batch.map Invalidation.process
  let addresses ← Ledger.ask s.edgeAddresses
  let site ← Ledger.ask s.siteIdentifier
  let acknowledged ← addresses.mapM (purgeSiteAt s site)
  let success := !addresses.isEmpty && acknowledged.all id
  Ledger.count success batch.length
  return (batch.map (Invalidation.settle success), .done)

def handle (s : Surroundings ε) (pace : Pace) (kind : Kind) (batch : List Invalidation) :
    StateM (Ledger ε) (List Invalidation × Ending) :=
  match kind with
  | .tag => purgeTags s pace batch
  | .url => purgePages s pace exact batch
  | .wildcardUrl => purgePages s pace pattern batch
  | .everything => purgeSite s batch

def purgerName : String := "edge_fleet"

/-- The names that handlers are entered under. -/
def scope? : Kind → Option String
  | .tag => some "invalidate_tags"
  | .url => some "invalidate_urls"
  | .wildcardUrl => some "invalidate_wildcard_urls"
  | .everything => some "invalidate_everything"

/-- What an observer of the purger was told. -/
def notices (l : Ledger ε) : List Notice := l.notices scope?

def purger (s : Surroundings ε) (pace : Pace) : Purger (Ledger ε) where
  name := purgerName
  supported := Kind.all
  handle kind batch := Ledger.within kind do
    let (batch, ending) ← handle s pace kind batch
    return (batch.map (·.state), ending)

end CachePurge.Fleet
