import CachePurge.Proofs.Fanout.Schedule
import CachePurge.Proofs.Fleet.Charges

/-!
Fan-outs of an edge fleet in any order. A purger may hand its requests to any sender. Of one that
goes in some order of the machine's steps, over a network that replies to a message always the same,
only that order is open: each key succeeds or fails by what was to be sent for it alone.
-/

namespace CachePurge.Fleet

variable {ε π : Type}

/-- How requests for groups of tags, by number, and those for pages, by id, are sent. -/
structure Sender (ε : Type) where
  tags : List (Nat × Except Fault Http.Request) →
    StateM (Ledger ε) (Except Panic (Fanout.Results Nat))
  pages : List (Uuid × Except Fault Http.Request) →
    StateM (Ledger ε) (Except Panic (Fanout.Results Uuid))

/-- The sender that the purger is made with. -/
def Sender.fanOut (s : Surroundings ε) (concurrency : Nat) : Sender ε :=
  ⟨Fleet.fanOut s concurrency Nat.repr, Fleet.fanOut s concurrency Uuid.toText⟩

section By
variable (send : Sender ε) (s : Surroundings ε)

def banGroupsBy (salt : String) (groups : List (List Invalidation)) (batch : List Invalidation) :
    StateM (Ledger ε) (List Invalidation × Ending) := do
  let addresses ← Ledger.ask s.edgeAddresses
  let site ← Ledger.ask s.siteIdentifier
  let written := groups.map fun group =>
    let tags := group.map (·.expression)
    (tags.map (Tag.digest salt), tags)
  match ← send.tags (tagRequests site addresses written) with
  | .error panic => return (batch, .panicked panic)
  | .ok results => return (← settleTags groups results batch, .done)

def purgeTagsBy (size : Nat) (batch : List Invalidation) :
    StateM (Ledger ε) (List Invalidation × Ending) := do
  let batch ← admitTags batch
  let salt ← Ledger.ask s.siteIdentifier
  let groups := groupsOf size (batch.filter isSendable)
  if groups.isEmpty then return (batch, .done)
  else banGroupsBy send s salt groups batch

def purgePagesBy (m : PageMethod) (batch : List Invalidation) :
    StateM (Ledger ε) (List Invalidation × Ending) := do
  let addresses ← Ledger.ask s.edgeAddresses
  let site ← Ledger.ask s.siteIdentifier
  let batch := batch.map admitPage
  let pages := (batch.filter fun inv => isRoutable inv.expression).map fun inv =>
    (inv.id, inv.expression)
  match ← send.pages (pageRequests m site addresses pages) with
  | .error panic => return (batch, .panicked panic)
  | .ok results => return (← settlePages results batch, .done)

def handleBy (size : Nat) (kind : Kind) (batch : List Invalidation) :
    StateM (Ledger ε) (List Invalidation × Ending) :=
  match kind with
  | .tag => purgeTagsBy send s size batch
  | .url => purgePagesBy send s exact batch
  | .wildcardUrl => purgePagesBy send s pattern batch
  | .everything => purgeSite s batch

def purgerBy (size : Nat) : Purger (Ledger ε) where
  name := purgerName
  supported := Kind.all
  handle kind batch := Ledger.within kind do
    let (batch, ending) ← handleBy send s size kind batch
    return (batch.map (·.state), ending)

/-- The purger itself is one by its own sender. -/
theorem purgerBy_fanOut (pace : Pace) :
    purgerBy (.fanOut s pace.concurrency) s pace.groupSize = purger s pace := rfl

end By

/-- The platform answers by a memory of its own, which sending does not touch, and the network
replies to a message always the same. How long that takes is open. -/
structure Separate (s : Surroundings ε) (memory : ε → π) (reply : Http.Message → Http.Reply) :
    Prop where
  addresses : ∀ e e', memory e = memory e' →
    (s.edgeAddresses e).1 = (s.edgeAddresses e').1 ∧
      memory (s.edgeAddresses e).2 = memory (s.edgeAddresses e').2
  site : ∀ e e', memory e = memory e' →
    (s.siteIdentifier e).1 = (s.siteIdentifier e').1 ∧
      memory (s.siteIdentifier e).2 = memory (s.siteIdentifier e').2
  deliver : ∀ message e, memory (s.deliver message e).2 = memory e
  reply : ∀ message e, (s.deliver message e).1.reply = reply message

/-- Whether a request can be built and sent, and is then replied to with success. -/
def acknowledges (reply : Http.Message → Http.Reply) : Except Fault Http.Request → Bool
  | .error _ => false
  | .ok request =>
    match Http.prepare true request with
    | .error _ => false
    | .ok message => (reply message).status?.any Http.isSuccess

/-- Sending goes in some order that the machine's steps may take under a setting. Each attempt takes
any time and ends as the network replies; the requests are given to the client in any order. -/
def Goes {κ : Type} (memory : ε → π) (reply : Http.Message → Http.Reply) (setting : Nat)
    (send : List (κ × Except Fault Http.Request) →
      StateM (Ledger ε) (Except Panic (Fanout.Results κ))) : Prop :=
  ∀ requests l, ∃ attempts : List (Fanout.Attempt κ),
    attempts.map (fun a => (a.key, a.outcome.isSuccess)) =
      requests.map (fun x => (x.1, acknowledges reply x.2)) ∧
    match Fanout.Machine.start setting attempts l.tally with
    | .error panic => send requests l = (.error panic, l)
    | .ok first => ∃ last, Fanout.Machine.Reaches first last ∧ last.phase = .returned ∧
        (send requests l).1 = .ok last.results ∧ (send requests l).2.tally = last.tally ∧
        memory (send requests l).2.outside = memory l.outside ∧
        ∃ sent, (send requests l).2.requests = l.requests ++ sent ∧
          sent.Perm (requests.filterMap (·.2.toOption))

/-- Both ways of sending go in some order. -/
def Sender.Goes (send : Sender ε) (memory : ε → π) (reply : Http.Message → Http.Reply)
    (setting : Nat) : Prop :=
  Fleet.Goes memory reply setting send.tags ∧ Fleet.Goes memory reply setting send.pages

section Own
variable {s : Surroundings ε} {memory : ε → π} {reply : Http.Message → Http.Reply}

theorem exchange_acknowledges (separate : Separate s memory reply)
    (request : Except Fault Http.Request) (l : Ledger ε) :
    (exchange s request l).1.2.isSuccess = acknowledges reply request ∧
      memory (exchange s request l).2.outside = memory l.outside := by
  cases request with
  | error fault => exact ⟨rfl, rfl⟩
  | ok request =>
      cases prepared : Http.prepare true request with
      | error fault =>
          have run : exchange s (.ok request) l =
              ((0, .failed (.client fault)), (Ledger.note (.request request none) l).2) := by
            simp only [exchange, Ledger.send, prepared]
            rfl
          rw [run, acknowledges, prepared]
          exact ⟨rfl, rfl⟩
      | ok message =>
          obtain ⟨outside, -, success⟩ := exchange_sent s prepared l
          rw [success, outside, acknowledges, prepared, separate.reply]
          exact ⟨rfl, separate.deliver message l.outside⟩

variable {κ : Type}

theorem attempts_acknowledge (separate : Separate s memory reply)
    (requests : List (κ × Except Fault Http.Request)) (l : Ledger ε) :
    (requests.mapM (fun x => attempt s x.1 x.2) l).1.map (fun a => (a.key, a.outcome.isSuccess)) =
        requests.map (fun x => (x.1, acknowledges reply x.2)) ∧
      memory (requests.mapM (fun x => attempt s x.1 x.2) l).2.outside = memory l.outside := by
  induction requests generalizing l with
  | nil => exact ⟨rfl, rfl⟩
  | cons x rest ih =>
      obtain ⟨success, kept⟩ := exchange_acknowledges separate x.2 l
      obtain ⟨outcomes, kept'⟩ := ih (exchange s x.2 l).2
      rw [mapM_cons_apply, attempt_apply, List.map_cons, List.map_cons, outcomes, success]
      exact ⟨rfl, kept'.trans kept⟩

/-- The purger's own fan-out goes in the order of its schedule. -/
theorem fanOut_goes (separate : Separate s memory reply) (setting : Nat) (label : κ → String) :
    Goes memory reply setting (fanOut s setting label) := by
  intro requests l
  obtain ⟨outcomes, kept⟩ := attempts_acknowledge separate requests l
  refine ⟨_, outcomes, ?_⟩
  by_cases within : setting ≤ Fanout.maxConcurrency
  · obtain ⟨first, last, started, run, returned, results, tally, -⟩ := Fanout.reaches_schedule
      setting (requests.mapM (fun x => attempt s x.1 x.2) l).1 l.tally within
    have sent := (fanOut_requests s within label requests l).1
    rw [started]
    rw [fanOut_apply s within label requests l] at sent ⊢
    refine ⟨last, run, returned, congrArg _ results.symm, ?_, kept, _, sent, .refl _⟩
    rw [tally, attempts_tally]
  · have beyond := Nat.lt_of_not_le within
    rw [Fanout.Machine.start, if_pos beyond]
    exact fanOut_of_lt s beyond label requests l

theorem Sender.fanOut_goes (separate : Separate s memory reply) (setting : Nat) :
    (Sender.fanOut s setting).Goes memory reply setting :=
  ⟨Fleet.fanOut_goes separate setting _, Fleet.fanOut_goes separate setting _⟩

end Own

section Goes
variable {κ : Type} {memory : ε → π} {reply : Http.Message → Http.Reply} {setting : Nat}
  {send : List (κ × Except Fault Http.Request) →
    StateM (Ledger ε) (Except Panic (Fanout.Results κ))}

theorem Goes.beyond (goes : Goes memory reply setting send)
    (beyond : Fanout.maxConcurrency < setting)
    (requests : List (κ × Except Fault Http.Request)) (l : Ledger ε) :
    send requests l = (.error Fanout.tooManyPermits, l) := by
  obtain ⟨attempts, -, run⟩ := goes requests l
  rwa [Fanout.Machine.start, if_pos beyond] at run

/-- Sending within the limit is told from other sending only by the order of what it leaves. -/
theorem Goes.within [DecidableEq κ] (goes : Goes memory reply setting send)
    (within : setting ≤ Fanout.maxConcurrency)
    (requests : List (κ × Except Fault Http.Request)) (l : Ledger ε) :
    ∃ results l', send requests l = (.ok results, l') ∧
      (∀ key, results.succeeded key = true ↔ (∃ x ∈ requests, x.1 = key) ∧
        ∀ x ∈ requests, x.1 = key → acknowledges reply x.2 = true) ∧
      l'.tally.requestsSent = l.tally.requestsSent + .ofNat requests.length ∧
      l'.tally.requestsFailed = l.tally.requestsFailed +
        .ofNat (requests.countP fun x => !acknowledges reply x.2) ∧
      l.tally.Gains [] l'.tally ∧ memory l'.outside = memory l.outside ∧
      ∃ sent, l'.requests = l.requests ++ sent ∧
        sent.Perm (requests.filterMap (·.2.toOption)) := by
  obtain ⟨attempts, outcomes, run⟩ := goes requests l
  rw [Fanout.Machine.start, if_neg (Nat.not_lt.mpr within)] at run
  obtain ⟨last, steps, returned, answer, tally, kept, sent⟩ := run
  have start := Fanout.Machine.start_invariant setting attempts l.tally
  obtain ⟨collected, finished, perm, perm', results, -, counted⟩ :=
    (Fanout.Machine.Reaches.invariant steps start).complete returned
  refine ⟨last.results, (send requests l).2, Prod.ext answer rfl, fun key => ?_, ?_, ?_, ?_, kept,
    sent⟩
  · have same := perm.map fun a => (a.key, a.outcome.isSuccess)
    rw [outcomes, ← Fanout.results_outcomes, ← results] at same
    exact Fanout.Results.succeeded_iff_of_perm same key
  · have length := congrArg List.length outcomes
    rw [List.length_map, List.length_map] at length
    rw [tally, counted, Fanout.count_requestsSent, perm'.length_eq, length]
  · have failed := congrArg (List.countP fun o => !o.2) outcomes
    rw [List.countP_map, List.countP_map] at failed
    rw [tally, counted, Fanout.count_requestsFailed, Fanout.failureCount, perm'.countP_eq]
    exact congrArg (l.tally.requestsFailed + UInt64.ofNat ·) failed
  · rw [tally, counted]
    exact Fanout.count_gains l.tally finished

end Goes
end CachePurge.Fleet
