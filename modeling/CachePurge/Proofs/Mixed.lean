import CachePurge.Proofs.Fleet.Settled
import CachePurge.Proofs.Vendor.Settled
import CachePurge.Rehearsal

/-!
Mixed lists in service. What is kept between calls, a backend or a closed gate, passes from kind to
kind as it passes from dispatch to dispatch, so that a mixed list may as well be dispatched in
parts.
-/

namespace CachePurge

open Invalidation (Moved ofKind weave)

/-- The purgers in service, in whatever surroundings: that of an edge fleet, with anything that
sends its requests in some order, and that of a vendor. -/
inductive InService : {σ : Type} → Purger σ → Prop
  | fleet {ε : Type} (send : Fleet.Sender ε) (s : Surroundings ε) (size : Nat) :
      InService (Fleet.purgerBy send s size)
  | vendor {ε : Type} (s : Surroundings ε) : InService (Vendor.purger s)

theorem InService.handles {σ : Type} {p : Purger σ} (service : InService p) : p.Handles := by
  cases service with
  | fleet send s size => exact Fleet.purgerBy_handles send s size
  | vendor s => exact Vendor.purger_handles s

/-- A mixed list is dispatched as its invalidations of each kind are, one kind after another: with
the same requests, counters, gate and backend, and with the first fault of these. What the kinds are
left as is put together in the order of the list, which matters for nothing else. -/
theorem dispatch_by_kind {σ : Type} {p : Purger σ} (service : InService p)
    {invs : List Invalidation} (supported : ∀ inv ∈ invs, inv.kind ∈ p.supported) (st : σ) :
    ∃ (left : Kind → List Invalidation) (ending : Ending) (st' : σ),
      p.dispatchEach none (Kind.all.map fun kind => ofKind kind invs) st =
        ((Kind.all.map left, ending), st') ∧
      (∀ kind, Moved (ofKind kind invs) (left kind)) ∧
      p.dispatch invs st = ((weave (invs.map (·.kind)) left, ending), st') ∧
      ∀ other : List Invalidation, (∀ kind, ofKind kind other = ofKind kind invs) →
        p.dispatch other st = ((weave (other.map (·.kind)) left, ending), st') := by
  obtain ⟨left, ending, st', each, moved, woven⟩ :=
    Purger.dispatch_weaves service.handles.settles supported st
  exact ⟨left, ending, st', each, moved, woven invs fun _ => rfl, woven⟩

/-- The text of the fault that a call reports. -/
def Ending.text? : Ending → Option String
  | .failed fault => some fault.message
  | .done | .panicked _ => none

/-- Without a backend both kinds fail, and the fault of the tags is that of the whole list, wherever
the page stands. -/
theorem dispatch_by_kind_without_backend :
    let p := Vendor.purger Rehearsal.surroundings
    let st : Vendor.Forwarder Rehearsal :=
      .start ⟨[], "site-a", none, Rehearsal.opening, [], [], true⟩
    let first := Invalidation.ofId 1 .tag "a"
    let page := Invalidation.ofId 2 .url "https://example.com/"
    let second := Invalidation.ofId 3 .tag "b"
    ∃ ending st', ending.text? =
        some "Configuration error: no usable CDN vendor backend configured" ∧
      p.dispatchEach none [[first, second], [page], [], []] st =
        (([[first.fail, second.fail], [page.fail], [], []], ending), st') ∧
      p.dispatch [first, page, second] st =
        (([first.fail, page.fail, second.fail], ending), st') ∧
      p.dispatch [page, first, second] st =
        (([page.fail, first.fail, second.fail], ending), st') := by
  intro p st first page second
  have service : InService p := .vendor Rehearsal.surroundings
  have supported : ∀ inv ∈ [first, page, second], inv.kind ∈ p.supported := by decide
  have lists : (p.dispatchEach none [[first, second], [page], [], []] st).1.1 =
      [[first.fail, second.fail], [page.fail], [], []] := by decide +kernel
  have mixed : (p.dispatch [first, page, second] st).1.1 =
      [first.fail, page.fail, second.fail] := by decide +kernel
  have mixed' : (p.dispatch [page, first, second] st).1.1 =
      [page.fail, first.fail, second.fail] := by decide +kernel
  have told : (p.dispatch [first, page, second] st).1.2.text? =
      some "Configuration error: no usable CDN vendor backend configured" := by decide +kernel
  have batches : (Kind.all.map fun kind => ofKind kind [first, page, second]) =
      [[first, second], [page], [], []] := rfl
  clear_value p st
  obtain ⟨left, ending, st', each, -, run, woven⟩ := dispatch_by_kind service supported st
  have run' := woven [page, first, second] fun kind => by cases kind <;> rfl
  rw [batches] at each
  rw [each] at lists
  rw [run] at mixed told
  rw [run'] at mixed'
  rw [each, run, run']
  exact ⟨ending, st', told, congrArg (fun lists => ((lists, ending), st')) lists,
    congrArg (fun invs => ((invs, ending), st')) mixed,
    congrArg (fun invs => ((invs, ending), st')) mixed'⟩

end CachePurge
