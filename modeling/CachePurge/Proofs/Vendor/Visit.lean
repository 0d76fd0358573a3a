import CachePurge.Proofs.Purger.Routing
import CachePurge.Proofs.Vendor.Backend

/-!
What a visit to a handler of the vendor's purger comes to, once the backend is chosen. While the
gate is closed the batch fails and nothing is exchanged. Else the batch goes its course as if the
gate had never been closed, and a fault of the service fails what it interrupted.
-/

namespace CachePurge.Vendor

variable {ε α : Type}

namespace Forwarder

def outside (f : Forwarder ε) : ε := f.gated.ledger.outside

def gate (f : Forwarder ε) : Gate := f.gated.gate

/-- The requests that were given to the client, in their order. -/
def requests (f : Forwarder ε) : List Http.Request := f.gated.ledger.requests

/-- The same with a gate that was never closed. -/
def cleared (f : Forwarder ε) : Forwarder ε := { f with gated := { f.gated with gate := .clear } }

/-- The same when the surroundings have moved on. -/
def within (f : Forwarder ε) (e : ε) : Forwarder ε :=
  { f with gated := { f.gated with ledger := { f.gated.ledger with outside := e } } }

theorem outside_within (f : Forwarder ε) (e : ε) : (f.within e).outside = e := rfl

/-- But for the gate. -/
def Alike (f f' : Forwarder ε) : Prop := f.gated.Alike f'.gated ∧ f.backend = f'.backend

theorem onLedger_blind (body : StateM (Ledger ε) α) : Blind Alike (onLedger body) := by
  intro f f' same
  obtain ⟨answer, left⟩ := GatedLedger.onLedger_blind body f.gated f'.gated same.1
  exact ⟨answer, left, same.2⟩

end Forwarder

/-- What becomes of a batch after its operation, and of the states that its handler reports. -/
def conclude (kind : Kind) (run : List Invalidation × Option Fault) :
    StateM (Forwarder ε) (List State × Ending) := do
  let batch ← match run.2 with
    | none => pure run.1
    | some fault => do
      Forwarder.onLedger (Ledger.noteFailed kind.handlerName fault)
      pure (run.1.map Invalidation.fail)
  countSettled batch
  Forwarder.onLedger (Ledger.note (.exit kind))
  return (batch.map (·.state), .done)

/-- The ledger when a handler is entered. -/
def entered (kind : Kind) (f : Forwarder ε) : GatedLedger ε :=
  (GatedLedger.onLedger (Ledger.note (.enter kind)) f.gated).2

theorem entered_requests (kind : Kind) (f : Forwarder ε) :
    (entered kind f).ledger.requests = f.requests :=
  (Ledger.requests_note _ _).trans (List.append_nil _)

theorem resolve_chosen (s : Surroundings ε) {f : Forwarder ε} {v : Backend}
    (chosen : f.backend = some v) : resolve s f = (some v, f) := by
  obtain ⟨gated, backend⟩ := f
  obtain rfl : backend = some v := chosen
  rfl

theorem handle_eq (s : Surroundings ε) {kind : Kind} {operation : Operation ε}
    (found : operation? kind = some operation) {f : Forwarder ε} {v : Backend}
    (chosen : f.backend = some v) (batch : List Invalidation) :
    (purger s).handle kind batch f =
      conclude kind (operation v s (batch.map Invalidation.process) (entered kind f)).1
        ⟨(operation v s (batch.map Invalidation.process) (entered kind f)).2, f.backend⟩ := by
  have noted : (Forwarder.onLedger (Ledger.note (.enter kind)) f).2 = ⟨entered kind f, f.backend⟩ :=
    rfl
  simp only [purger, found, bind_apply, noted, forward, Forwarder.onGated,
    resolve_chosen s (f := ⟨entered kind f, f.backend⟩) chosen]
  generalize operation v s (batch.map Invalidation.process) (entered kind f) = run
  obtain ⟨⟨left, fault⟩, gated⟩ := run
  cases fault <;> rfl

theorem conclude_blind (kind : Kind) (run : List Invalidation × Option Fault) :
    Blind (Forwarder.Alike (ε := ε)) (conclude kind run) := by
  unfold conclude
  have rest : ∀ batch : List Invalidation, Blind (Forwarder.Alike (ε := ε)) (do
      countSettled batch
      Forwarder.onLedger (Ledger.note (.exit kind))
      return (batch.map (·.state), Ending.done)) := by
    intro batch
    refine Blind.bind ?_ fun _ => (Forwarder.onLedger_blind _).bind fun _ => .pure _
    exact (Forwarder.onLedger_blind _).bind fun _ => Forwarder.onLedger_blind _
  cases run.2 with
  | none => exact (Blind.pure _).bind rest
  | some fault => exact (Forwarder.onLedger_blind _).bind fun _ => (Blind.pure _).bind rest

theorem conclude_fields (kind : Kind) (run : List Invalidation × Option Fault) (f : Forwarder ε) :
    let left := if run.2 = none then run.1 else run.1.map Invalidation.fail
    (conclude kind run f).1 = (left.map (·.state), .done) ∧
      (conclude kind run f).2.backend = f.backend ∧ (conclude kind run f).2.gate = f.gate ∧
      (conclude kind run f).2.outside = f.outside ∧
      (conclude kind run f).2.requests = f.requests := by
  have silent : ∀ (event : Event) (l : Ledger ε), event.request? = none →
      (Ledger.note event l).2.requests = l.requests := by
    intro event l none
    rw [Ledger.requests_note, none]
    exact List.append_nil _
  obtain ⟨batch, fault⟩ := run
  cases fault with
  | none => exact ⟨rfl, rfl, rfl, rfl, silent _ _ rfl⟩
  | some fault => exact ⟨rfl, rfl, rfl, rfl, (silent _ _ rfl).trans (silent _ _ rfl)⟩

theorem operation_of_supported {s : Surroundings ε} {kind : Kind}
    (supported : kind ∈ (purger s).supported) :
    ∃ operation : Operation ε, operation? kind = some operation := by
  cases kind with
  | tag => exact ⟨_, rfl⟩
  | url => exact ⟨_, rfl⟩
  | wildcardUrl =>
      have unlisted : Kind.wildcardUrl ∉ [Kind.tag, .url, .everything] := by decide
      exact absurd supported unlisted
  | everything => exact ⟨_, rfl⟩

/-- A visit as it would have been with a gate that was never closed. -/
def clearedVisit (visit : Purger.Visit (Forwarder ε)) : Purger.Visit (Forwarder ε) :=
  { visit with before := visit.before.cleared }

/-- What a visit came to, and what was exchanged in it. -/
structure Treated (v : Fastly) (s : Surroundings ε) (visit : Purger.Visit (Forwarder ε))
    (xs : List Exchange) : Prop where
  done : (visit.answer (purger s)).2 = .done
  backend : (visit.after (purger s)).backend = visit.before.backend
  trades : s.Trades visit.before.outside xs (visit.after (purger s)).outside
  listed : (visit.after (purger s)).requests = visit.before.requests ++ xs.map (·.request)
  closed : ∀ message, visit.before.gate.health (s.clock visit.before.outside) = some message →
    xs = [] ∧ (visit.after (purger s)).gate = visit.before.gate ∧
      visit.left (purger s) = visit.batch.map Invalidation.fail
  passed : visit.before.gate.health (s.clock visit.before.outside) = none →
    visit.answer (purger s) = (clearedVisit visit).answer (purger s) ∧
      (visit.after (purger s)).Alike ((clearedVisit visit).after (purger s))
  calm : (∀ x ∈ xs, x.closure? = none) → (visit.after (purger s)).gate = visit.before.gate
  fault : ∀ x ∈ xs, ∀ closure, x.closure? = some closure →
    (visit.after (purger s)).gate = .upTo closure ∧
      ∃ settled, InterruptedAt v visit.kind visit.batch xs settled ∧
        (visit.left (purger s)).drop settled = (visit.batch.drop settled).map Invalidation.fail

theorem interruptedAt_of_process {v : Fastly} {kind : Kind} {batch : List Invalidation}
    {xs : List Exchange} {settled : Nat}
    (interrupted : InterruptedAt v kind (batch.map Invalidation.process) xs settled) :
    InterruptedAt v kind batch xs settled := by
  obtain ⟨inside, single, others, x, split, calm, own⟩ := interrupted
  rw [List.length_map] at inside
  rw [← List.map_take, pageRequests, List.filterMap_map] at own
  exact ⟨inside, single, others, x, split, calm, own⟩

section Treated
variable {v : Backend} (s : Surroundings ε) {kind : Kind} {operation : Operation ε}
  (found : operation? kind = some operation) {f : Forwarder ε} (chosen : f.backend = some v)
  (batch : List Invalidation)
include found chosen

theorem treated_closed {message : String}
    (closed : f.gate.health (s.clock f.outside) = some message) :
    Treated v s ⟨kind, batch, f⟩ [] := by
  obtain ⟨body, gated, -, -⟩ := operation_course found v s (batch.map Invalidation.process)
  have ran := handle_eq s found chosen batch
  rw [gated, unlessClosed_closed s _ (entered kind f) body closed] at ran
  obtain ⟨answer, backend, gate, outside, requests⟩ :=
    conclude_fields kind (batch.map Invalidation.process, some (.vendorFault message))
      ⟨(entered kind f).looked s, f.backend⟩
  rw [← ran] at answer backend gate outside requests
  refine ⟨congrArg (·.2) answer, backend, ?_, ?_, fun _ _ => ⟨rfl, gate, ?_⟩, fun isOpen => ?_,
    fun _ => gate, fun _ among => absurd among List.not_mem_nil⟩
  · rw [Purger.Visit.after, outside]
    exact .look (.rest _)
  · exact requests.trans ((entered_requests kind f).trans (List.append_nil _).symm)
  · rw [Purger.Visit.left, Purger.Visit.answer, answer]
    exact Invalidation.advanceEach_fail_process batch
  · rw [closed] at isOpen
    cases isOpen

theorem treated_open (isOpen : f.gate.health (s.clock f.outside) = none) :
    ∃ xs, Treated v s ⟨kind, batch, f⟩ xs := by
  obtain ⟨body, gated, blind, course⟩ :=
    operation_course found v s (batch.map Invalidation.process)
  have ran := handle_eq s found chosen batch
  have clear := handle_eq s found (f := f.cleared) chosen batch
  rw [gated, unlessClosed_open s _ (entered kind f) body isOpen] at ran
  rw [gated, unlessClosed_open s _ (entered kind f.cleared) body rfl] at clear
  obtain ⟨same, alike⟩ := blind ((entered kind f).looked s) ((entered kind f.cleared).looked s) rfl
  obtain ⟨xs, trades, listed, calm, fault⟩ := course ((entered kind f).looked s)
  generalize body ((entered kind f).looked s) = run at ran same alike trades listed calm fault
  obtain ⟨answer, backend, gate, outside, requests⟩ :=
    conclude_fields kind run.1 ⟨run.2, f.backend⟩
  rw [← ran] at answer backend gate outside requests
  refine ⟨xs, congrArg (·.2) answer, backend, ?_, ?_, fun message closed => ?_, fun _ => ?_,
    fun none => gate.trans (calm none).2, fun x among closure asked => ?_⟩
  · rw [Purger.Visit.after, outside]
    exact .look trades
  · exact requests.trans (listed.trans (congrArg (· ++ _) (entered_requests kind f)))
  · rw [isOpen] at closed
    cases closed
  · have wound := conclude_blind kind run.1 ⟨run.2, f.backend⟩
      ⟨(body ((entered kind f.cleared).looked s)).2, f.cleared.backend⟩ ⟨alike, rfl⟩
    rw [← ran, same, ← clear] at wound
    exact wound
  · obtain ⟨closed, failed, settled, interrupted, rest⟩ := fault x among closure asked
    refine ⟨gate.trans closed, settled, interruptedAt_of_process interrupted, ?_⟩
    rw [if_neg failed] at answer
    rw [Purger.Visit.left, Purger.Visit.answer, answer, Invalidation.drop_advanceEach,
      ← List.map_drop, ← List.map_drop, rest, ← List.map_drop]
    exact Invalidation.advanceEach_fail_process (batch.drop settled)

end Treated

theorem visit_treated {v : Backend} (s : Surroundings ε) (visit : Purger.Visit (Forwarder ε))
    (supported : visit.kind ∈ (purger s).supported) (chosen : visit.before.backend = some v) :
    ∃ xs, Treated v s visit xs := by
  obtain ⟨kind, batch, f⟩ := visit
  obtain ⟨operation, found⟩ := operation_of_supported supported
  cases health : f.gate.health (s.clock f.outside) with
  | some message => exact ⟨[], treated_closed s found chosen batch health⟩
  | none => exact treated_open s found chosen batch health

/-- The purge of a site closes the gate if its answer is a fault of the service. -/
theorem gate_of_siteFault {v : Backend} (s : Surroundings ε) {f : Forwarder ε}
    (chosen : f.backend = some v) (isOpen : f.gate.health (s.clock f.outside) = none)
    (inv : Invalidation) (rest : List Invalidation) {x : Exchange} {closure : Closure}
    (exchanged : x ∈ Fastly.tried s v.siteRequest (s.now f.outside).2)
    (asked : x.closure? = some closure) :
    ((purger s).handle .everything (inv :: rest) f).2.gate = .upTo closure := by
  have course : Course v s .everything _ _ _ _ := course_of_wholeBatch v s v.siteRequest_unblamed
    Fastly.saysOk ((inv :: rest).map Invalidation.process) ((entered .everything f).looked s)
  have opened := unlessClosed_open s ((inv :: rest).map Invalidation.process)
    (entered .everything f) (wholeBatch s v.siteRequest Fastly.saysOk
      ((inv :: rest).map Invalidation.process)) isOpen
  have found : operation? .everything = some (Fastly.purgeSite (ε := ε)) := rfl
  rw [handle_eq s found chosen]
  refine (conclude_fields _ _ _).2.2.1.trans ?_
  exact (congrArg (·.2.gate) opened).trans (course.fault x exchanged closure asked).1

/-- Whatever the backend is, a handler of a supported kind returns. -/
theorem purger_returns (s : Surroundings ε) {kind : Kind}
    (supported : kind ∈ (purger s).supported) : (purger s).Returns kind := by
  obtain ⟨operation, found⟩ := operation_of_supported supported
  intro batch f panic
  simp only [purger, found, bind_apply, forward]
  generalize resolve s (Forwarder.onLedger (Ledger.note (.enter kind)) f).2 = resolved
  obtain ⟨backend, f'⟩ := resolved
  cases backend with
  | none => nofun
  | some v =>
      simp only [bind_apply, Forwarder.onGated]
      generalize operation v s (batch.map Invalidation.process) f'.gated = run
      obtain ⟨⟨left, fault⟩, gated⟩ := run
      cases fault <;> nofun

end CachePurge.Vendor
