import CachePurge.Proofs.Purger.Split
import CachePurge.Proofs.Vendor.Visit

/-!
What the handlers of a vendor's purger make of their batches. No state goes back; an operation
leaves something open only if it reports a fault, and that fails it.
-/

namespace CachePurge.Vendor

open Invalidation (Moved)
open Purger (Handled)

variable {ε : Type} (v : Backend) (s : Surroundings ε)

/-- What an operation makes of its batch: nothing in it goes back and, if there is no fault, nothing
is left open. -/
structure Operated (batch : List Invalidation) (run : List Invalidation × Option Fault) : Prop where
  moved : Moved batch run.1
  settled : run.2 = none → ∀ inv ∈ run.1, inv.isTerminal

theorem Operated.faulty (batch : List Invalidation) (fault : Fault) :
    Operated batch (batch, some fault) :=
  ⟨Moved.refl batch, nofun⟩

theorem map_settle_operated (success : Bool) (batch : List Invalidation) :
    Operated batch (batch.map (Invalidation.settle success), none) where
  moved := Invalidation.moved_map (fun inv => inv.advance_moves _) batch
  settled _ := List.forall_mem_map.mpr fun inv _ => inv.isTerminal_settle success

theorem settleBatch_operated (accepts : Json → Bool) (outcome : Except Fault Json)
    (batch : List Invalidation) : Operated batch (Fastly.settleBatch accepts outcome batch) := by
  unfold Fastly.settleBatch
  split
  · exact map_settle_operated _ batch
  · exact .faulty batch _
  · exact map_settle_operated false batch

theorem wholeBatch_operated (request : Except Fault Http.Request) (accepts : Json → Bool)
    (batch : List Invalidation) (g : GatedLedger ε) :
    Operated batch (wholeBatch s request accepts batch g).1 := by
  rw [wholeBatch]
  split
  · next empty =>
      obtain rfl := List.isEmpty_iff.mp empty
      exact ⟨.nil, fun _ _ among => absurd among List.not_mem_nil⟩
  · exact settleBatch_operated accepts _ batch

theorem purgePagesFrom_operated (batch : List Invalidation) (g : GatedLedger ε) :
    Operated batch (v.purgePagesFrom s batch g).1 := by
  induction batch generalizing g with
  | nil => exact ⟨.nil, fun _ _ among => absurd among List.not_mem_nil⟩
  | cons inv rest ih =>
      by_cases unblamed : Unblamed (Fastly.exchange? s (v.pageRequest inv.expression) g).1
      · rw [purgePagesFrom_unblamed v s rest unblamed]
        obtain ⟨moved, settled⟩ := ih (Fastly.exchange? s (v.pageRequest inv.expression) g).2
        exact ⟨.cons (inv.advance_moves _) moved, fun done =>
          List.forall_mem_cons.mpr ⟨inv.isTerminal_settle _, settled done⟩⟩
      · obtain ⟨message, blamed⟩ := not_forall_not.mp unblamed
        rw [purgePagesFrom_blamed v s rest blamed]
        exact .faulty (inv :: rest) _

theorem unlessClosed_operated {batch : List Invalidation}
    {body : StateM (GatedLedger ε) (List Invalidation × Option Fault)}
    (operated : ∀ g, Operated batch (body g).1) (g : GatedLedger ε) :
    Operated batch (Fastly.unlessClosed s batch body g).1 := by
  cases health : g.gate.health (s.clock g.ledger.outside) with
  | some message =>
      rw [unlessClosed_closed s batch g body health]
      exact .faulty batch _
  | none =>
      rw [unlessClosed_open s batch g body health]
      exact operated (g.looked s)

section Kind
variable {kind : Kind} {operation : Operation ε} (found : operation? kind = some operation)
include found

theorem operation_operated (batch : List Invalidation) (g : GatedLedger ε) :
    Operated batch (operation v s batch g).1 := by
  cases kind with
  | tag =>
      cases found
      exact unlessClosed_operated s (wholeBatch_operated s _ _ batch) g
  | url =>
      cases found
      exact unlessClosed_operated s (purgePagesFrom_operated v s batch) g
  | wildcardUrl => cases found
  | everything =>
      cases found
      exact unlessClosed_operated s (wholeBatch_operated s _ _ batch) g

theorem forward_handled (batch : List Invalidation) (f : Forwarder ε) :
    Handled batch (forward s kind operation batch f).1 := by
  have failed (batch : List Invalidation) : Operated batch (batch.map Invalidation.fail, none) :=
    map_settle_operated false batch
  simp only [forward, bind_apply]
  generalize resolve s f = resolved
  cases resolved.1 with
  | none => exact ⟨(failed batch).moved, fun _ => (failed batch).settled rfl⟩
  | some v =>
      have processed : Moved batch (batch.map Invalidation.process) :=
        Invalidation.moved_map (fun inv => inv.advance_moves .processing) batch
      obtain ⟨moved, settled⟩ := operation_operated v s found
        (batch.map Invalidation.process) resolved.2.gated
      generalize run : operation v s (batch.map Invalidation.process) resolved.2.gated = r
        at moved settled
      obtain ⟨⟨after, fault⟩, g⟩ := r
      simp only [bind_apply, Forwarder.onGated, run]
      cases fault with
      | none => exact ⟨processed.trans moved, fun _ => settled rfl⟩
      | some fault =>
          exact ⟨(processed.trans moved).trans (failed after).moved,
            fun _ => (failed after).settled rfl⟩

end Kind

section Passed
variable {s : Surroundings ε} {kind : Kind} {operation : Operation ε}
  (found : operation? kind = some operation) {f : Forwarder ε} {v : Backend}
  (chosen : f.backend = some v) (isOpen : f.gate.health (s.clock f.outside) = none)
  {batch : List Invalidation}
  {body : StateM (GatedLedger ε) (List Invalidation × Option Fault)}
  (gated : operation v s (batch.map Invalidation.process) =
    Fastly.unlessClosed s (batch.map Invalidation.process) body)
include found chosen isOpen gated

/-- The call leaves its batch as what stands behind the gate does, but with what a fault leaves open
failed. -/
theorem call_passed :
    let run := body ((entered kind f).looked s)
    let call := (purger s).call kind batch f
    call.1 = (if run.1.2 = none then run.1.1 else run.1.1.map Invalidation.fail, .done) ∧
      call.2.gate = run.2.gate ∧ call.2.outside = run.2.ledger.outside ∧
      call.2.requests = run.2.ledger.requests := by
  intro run call
  have ran := handle_eq s found chosen batch
  obtain ⟨operated, -⟩ := operation_operated v s found (batch.map Invalidation.process)
    (entered kind f)
  rw [gated, unlessClosed_open s _ (entered kind f) body isOpen] at ran operated
  obtain ⟨answer, -, gate, outside, requests⟩ := conclude_fields kind run.1 ⟨run.2, f.backend⟩
  rw [← ran] at answer gate outside requests
  have processed : Moved batch (batch.map Invalidation.process) :=
    Invalidation.moved_map (fun inv => inv.advance_moves .processing) batch
  have moved : Moved batch (if run.1.2 = none then run.1.1 else run.1.1.map Invalidation.fail) := by
    split
    · exact processed.trans operated
    · exact (processed.trans operated).trans
        (Invalidation.moved_map (fun inv => inv.advance_moves .failed) _)
  have called := Purger.call_eq (Prod.ext answer rfl :
    (purger s).handle kind batch f = ((_, .done), ((purger s).handle kind batch f).2))
  rw [Invalidation.advanceEach_of_moved moved] at called
  exact ⟨congrArg (·.1) called, (congrArg (·.2.gate) called).trans gate,
    (congrArg (·.2.outside) called).trans outside, (congrArg (·.2.requests) called).trans requests⟩

end Passed

theorem purger_handles : (purger s).Handles := by
  intro kind batch f
  simp only [purger]
  cases found : operation? kind with
  | none => exact ⟨batch, rfl, .broken (Moved.refl batch) _⟩
  | some operation => exact ⟨_, rfl, forward_handled s found batch _⟩

end CachePurge.Vendor
