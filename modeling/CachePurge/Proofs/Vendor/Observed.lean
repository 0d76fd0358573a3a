import CachePurge.Proofs.Observer
import CachePurge.Proofs.Purger.Visits
import CachePurge.Proofs.Vendor.Visit

/-!
What an observer of a vendor's purger is told. Every kind that occurs is told as one bracket,
whatever its handler comes to. The backend tells nothing by itself: inside of a bracket there is the
fault that its operation returned, under the name of the handler, if it returned one. Without a
backend there is no operation, and then the handler returns with a fault of its own that nobody is
told of.
-/

namespace CachePurge.Vendor

variable {ε α : Type}

theorem scope?_of_supported {s : Surroundings ε} {kind : Kind}
    (supported : kind ∈ (purger s).supported) : scope? kind = some kind.handlerName := by
  have listed : kind ∈ [Kind.tag, .url, .everything] := supported
  cases kind <;> first | rfl | exact absurd listed (by decide)

def GatedLedger.notices (g : GatedLedger ε) : List Notice := g.ledger.notices scope?

theorem GatedLedger.onLedger_tells_nothing {body : StateM (Ledger ε) α}
    (quiet : Keeps (Ledger.notices scope?) body) : Keeps notices (onLedger body) :=
  fun g => quiet g.ledger

theorem health_tells_nothing (s : Surroundings ε) :
    Keeps GatedLedger.notices (GatedLedger.health s) :=
  (GatedLedger.onLedger_tells_nothing (Ledger.ask_tells_nothing s.now)).bind fun _ => fun _ => rfl

theorem closeGate_tells_nothing (s : Surroundings ε) (message : String) (ttl : Nat) :
    Keeps GatedLedger.notices (GatedLedger.closeGate s message ttl) :=
  (GatedLedger.onLedger_tells_nothing (Ledger.ask_tells_nothing s.now)).bind fun _ => fun _ => rfl

namespace Fastly

theorem inspect_tells_nothing (s : Surroundings ε) (target : String) (status : Nat)
    (body : List UInt8) : Keeps GatedLedger.notices (inspect s target status body) := by
  simp only [inspect]
  split
  · exact (closeGate_tells_nothing s _ _).bind fun _ => .pure _
  · exact .pure _

theorem exchange_tells_nothing (s : Surroundings ε) (request : Http.Request) :
    Keeps GatedLedger.notices (exchange s request) := by
  refine (GatedLedger.onLedger_tells_nothing (Ledger.send_tells_nothing s false request)).bind
    fun (reply, took) => ?_
  have counted (outcome : Except Fault Json) : Keeps GatedLedger.notices (do
      GatedLedger.onLedger (Ledger.countRequest (ε := ε) outcome.isOk took.toFloat.toBits)
      return outcome) :=
    (GatedLedger.onLedger_tells_nothing (Ledger.countRequest_tells_nothing _ _)).bind
      fun _ => .pure _
  cases reply with
  | error fault => exact (Keeps.pure _).bind counted
  | ok response =>
      cases read : response.body with
      | error fault =>
          simp only [read]
          exact (Keeps.pure _).bind counted
      | ok body =>
          simp only [read]
          exact (inspect_tells_nothing s _ _ body).bind counted

theorem exchange?_tells_nothing (s : Surroundings ε) (request : Except Fault Http.Request) :
    Keeps GatedLedger.notices (exchange? s request) := by
  cases request with
  | error fault => exact .pure _
  | ok request => exact exchange_tells_nothing s request

theorem purgePagesFrom_tells_nothing (v : Fastly) (s : Surroundings ε)
    (batch : List Invalidation) : Keeps GatedLedger.notices (purgePagesFrom v s batch) := by
  induction batch with
  | nil => exact .pure _
  | cons inv rest ih =>
      refine (exchange?_tells_nothing s _).bind fun outcome => ?_
      split
      · exact .pure _
      · exact ih.bind fun _ => .pure _

theorem unlessClosed_tells_nothing (s : Surroundings ε) (batch : List Invalidation)
    {body : StateM (GatedLedger ε) (List Invalidation × Option Fault)}
    (quiet : Keeps GatedLedger.notices body) :
    Keeps GatedLedger.notices (unlessClosed s batch body) := by
  refine (health_tells_nothing s).bind fun closed => ?_
  cases closed with
  | none => exact quiet
  | some message => exact .pure _

end Fastly

theorem wholeBatch_tells_nothing (s : Surroundings ε) (request : Except Fault Http.Request)
    (accepts : Json → Bool) (batch : List Invalidation) :
    Keeps GatedLedger.notices (wholeBatch s request accepts batch) := by
  cases batch with
  | nil => exact .pure _
  | cons inv rest => exact (Fastly.exchange?_tells_nothing s request).bind fun _ => .pure _

theorem operation_tells_nothing {kind : Kind} {operation : Operation ε}
    (found : operation? kind = some operation) (v : Backend) (s : Surroundings ε)
    (batch : List Invalidation) : Keeps GatedLedger.notices (operation v s batch) := by
  cases kind with
  | tag =>
      obtain rfl := Option.some.inj found
      exact Fastly.unlessClosed_tells_nothing s batch (wholeBatch_tells_nothing s _ _ batch)
  | url =>
      obtain rfl := Option.some.inj found
      exact Fastly.unlessClosed_tells_nothing s batch
        (Fastly.purgePagesFrom_tells_nothing v s batch)
  | wildcardUrl => cases found
  | everything =>
      obtain rfl := Option.some.inj found
      exact Fastly.unlessClosed_tells_nothing s batch (wholeBatch_tells_nothing s _ _ batch)

namespace Forwarder

theorem onGated_tells_nothing {body : StateM (GatedLedger ε) α}
    (quiet : Keeps GatedLedger.notices body) : Keeps notices (onGated body) :=
  fun f => quiet f.gated

theorem onLedger_tells_nothing {body : StateM (Ledger ε) α}
    (quiet : Keeps (Ledger.notices scope?) body) : Keeps notices (onLedger body) :=
  onGated_tells_nothing (GatedLedger.onLedger_tells_nothing quiet)

end Forwarder

theorem resolve_tells_nothing (s : Surroundings ε) : Keeps Forwarder.notices (resolve s) := by
  refine Keeps.bind (fun _ => rfl) fun f => ?_
  cases f.backend with
  | some v => exact .pure _
  | none =>
      have settings := Forwarder.onLedger_tells_nothing (Ledger.ask_tells_nothing s.vendorSettings)
      have site := Forwarder.onLedger_tells_nothing (Ledger.ask_tells_nothing s.siteIdentifier)
      refine settings.bind fun _ => site.bind fun _ => ?_
      exact Keeps.bind (fun _ => rfl) fun _ => .pure _

theorem countSettled_tells_nothing (batch : List Invalidation) :
    Keeps (Forwarder.notices (ε := ε)) (countSettled batch) :=
  (Forwarder.onLedger_tells_nothing (Ledger.count_tells_nothing _ _)).bind fun _ =>
    Forwarder.onLedger_tells_nothing (Ledger.count_tells_nothing _ _)

/-- The fault that the operation of a backend returns when a batch is forwarded to it; none if there
is no backend. -/
def operationFault? (s : Surroundings ε) (operation : Operation ε) (batch : List Invalidation)
    (f : Forwarder ε) : Option Fault :=
  match resolve s f with
  | (none, _) => none
  | (some v, f) => (operation v s (batch.map Invalidation.process) f.gated).1.2

theorem forward_reports (s : Surroundings ε) {kind : Kind} {operation : Operation ε}
    (found : operation? kind = some operation) (batch : List Invalidation) (f : Forwarder ε) :
    (forward s kind operation batch f).2.notices = f.notices ++
      (operationFault? s operation batch f).toList.map (.failed kind.handlerName) := by
  have resolved := resolve_tells_nothing s f
  simp only [forward, bind_apply, operationFault?]
  generalize resolve s f = run at resolved
  obtain ⟨backend, f₁⟩ := run
  cases backend with
  | none => exact resolved.trans (List.append_nil _).symm
  | some v =>
      have operated := operation_tells_nothing found v s (batch.map Invalidation.process) f₁.gated
      simp only [bind_apply, Forwarder.onGated]
      generalize operation v s (batch.map Invalidation.process) f₁.gated = run at operated
      obtain ⟨⟨left, fault⟩, gated⟩ := run
      cases fault with
      | none =>
          refine (countSettled_tells_nothing left _).trans ?_
          exact (operated.trans resolved).trans (List.append_nil _).symm
      | some fault =>
          refine (countSettled_tells_nothing (left.map Invalidation.fail) _).trans ?_
          refine (Ledger.notices_note _ _).trans ?_
          exact congrArg (· ++ [.failed kind.handlerName fault]) (operated.trans resolved)

section Visits
variable {s : Surroundings ε} {visit : Purger.Visit (Forwarder ε)}

/-- The purger when a visit has been entered. -/
def enteredIn (visit : Purger.Visit (Forwarder ε)) : Forwarder ε :=
  ⟨entered visit.kind visit.before, visit.before.backend⟩

/-- The fault that the backend's operation returned in a visit. -/
def visitFault? (s : Surroundings ε) (visit : Purger.Visit (Forwarder ε)) : Option Fault :=
  (operation? visit.kind).bind fun operation =>
    operationFault? s operation visit.batch (enteredIn visit)

theorem visit_notices (supported : visit.kind ∈ (purger s).supported) :
    (visit.after (purger s)).notices = visit.before.notices ++
      bracket visit.kind ((visitFault? s visit).toList.map (visit.kind.handlerName, ·)) := by
  obtain ⟨operation, found⟩ := operation_of_supported supported
  have named := scope?_of_supported supported
  have enter : (enteredIn visit).notices =
      visit.before.notices ++ [.enter visit.kind.handlerName] := by
    refine (Ledger.notices_note _ _).trans ?_
    rw [Event.notice?, named]
    rfl
  have inside := forward_reports s found visit.batch (enteredIn visit)
  have after : (visit.after (purger s)).notices =
      (forward s visit.kind operation visit.batch (enteredIn visit)).2.notices ++
        [.exit visit.kind.handlerName] := by
    simp only [Purger.Visit.after, purger, found, bind_apply]
    refine (Ledger.notices_note _ _).trans ?_
    rw [Event.notice?, named]
    rfl
  rw [after, inside, enter, visitFault?, found, Option.bind_some, bracket, List.map_map]
  simp only [List.append_assoc, List.cons_append, Function.comp_def, List.nil_append]

/-- Without a backend the handler returns with a fault, but not by one of an operation. -/
theorem visit_unresolved (supported : visit.kind ∈ (purger s).supported)
    (none : (resolve s (enteredIn visit)).1 = none) :
    (visit.answer (purger s)).2 = .failed noBackend ∧ visitFault? s visit = .none := by
  obtain ⟨operation, found⟩ := operation_of_supported supported
  rw [visitFault?, found, Option.bind_some, operationFault?]
  have entered : (Forwarder.onLedger (Ledger.note (.enter visit.kind)) visit.before).2 =
      enteredIn visit := rfl
  simp only [Purger.Visit.answer, purger, found, bind_apply, forward, entered]
  generalize resolve s (enteredIn visit) = run at none
  obtain ⟨backend, f⟩ := run
  obtain rfl : backend = .none := none
  exact ⟨rfl, rfl⟩

end Visits

/-- How the visits of a dispatch are told: one bracket for each kind that occurs, in it the fault
that the backend's operation returned, if it returned one. -/
structure Observed (s : Surroundings ε) (invs : List Invalidation) (f : Forwarder ε)
    (visits : List (Purger.Visit (Forwarder ε))) : Prop extends
    Purger.Recorded (purger s) Forwarder.notices invs f visits where
  kinds : visits.map (·.kind) = Purger.occurring Kind.all invs
  bracketed : ∀ visit ∈ visits, visit.told (purger s) Forwarder.notices =
    bracket visit.kind ((visitFault? s visit).toList.map (visit.kind.handlerName, ·))
  unresolved : ∀ visit ∈ visits, (resolve s (enteredIn visit)).1 = none →
    (visit.answer (purger s)).2 = .failed noBackend ∧
      visit.told (purger s) Forwarder.notices = bracket visit.kind []

theorem dispatch_observed (s : Surroundings ε) {invs : List Invalidation}
    (supported : ∀ inv ∈ invs, inv.kind ∈ (purger s).supported) (f : Forwarder ε) :
    ∃ visits, Observed s invs f visits := by
  obtain ⟨visits, routed, recorded⟩ := Purger.dispatch_visits (purger s) supported f
  have own (visit) (inside : visit ∈ visits) : visit.kind ∈ (purger s).supported := by
    obtain ⟨inv, among⟩ := List.exists_mem_of_ne_nil _ (routed.batches visit inside).2
    obtain ⟨submitted, same⟩ := (routed.mem_batch inside).mp among
    exact same ▸ supported inv submitted
  have told (visit) (inside : visit ∈ visits) := visit_notices (own visit inside)
  have kinds : visits.map (·.kind) = Purger.occurring Kind.all invs := by
    rcases routed.ended with ⟨kinds, -⟩ | ⟨front, last, later, panic, rfl, -, -, broken, -⟩
    · exact kinds
    · have inside : last ∈ front ++ [last] := List.mem_append_right front List.mem_cons_self
      exact absurd broken (purger_returns s (own last inside) _ _ panic)
  refine ⟨visits, routed.record recorded fun visit inside => ⟨_, told visit inside⟩, kinds,
    fun visit inside => Purger.Visit.told_eq (told visit inside), fun visit inside none => ?_⟩
  obtain ⟨answer, faultless⟩ := visit_unresolved (own visit inside) none
  have bracketed := Purger.Visit.told_eq (told visit inside)
  rw [faultless] at bracketed
  exact ⟨answer, bracketed⟩

end CachePurge.Vendor
