import CachePurge.Proofs.Fleet.Settled
import CachePurge.Proofs.Vendor.Settled
import CachePurge.Rehearsal

/-!
Histories of a list of invalidations that is given to purgers time and again: to that of an edge
fleet, to that of a vendor, and to any others that only use the methods of a state. However the
calls end, the list moves forward, and what is settled once stays so.
-/

namespace CachePurge

open Invalidation

/-- The purgers that a history may be made of, in whatever surroundings. -/
inductive Known : {σ : Type} → Purger σ → Prop
  | fleet {ε : Type} (s : Surroundings ε) (pace : Fleet.Pace) : Known (Fleet.purger s pace)
  | vendor {ε : Type} (s : Surroundings ε) : Known (Vendor.purger s)
  | acting {σ : Type} (name : String) (supported : List Kind)
      (acts : Kind → List Invalidation → StateM σ (List (Nat × State) × Ending)) :
      Known (Purger.acting name supported acts)

theorem Known.forward {σ : Type} {p : Purger σ} (known : Known p) : p.Forward := by
  cases known with
  | fleet s pace => exact (Fleet.purger_handles s pace).forward
  | vendor s => exact (Vendor.purger_handles s).forward
  | acting name supported acts => exact Purger.acting_forward name supported acts

/-- A call with some invalidations: whether it was a dispatch, how it ended and what it left. -/
structure Stage where
  dispatched : Bool
  ending : Ending
  left : List Invalidation

/-- A stage comes of a list by a dispatch of it, or by a call of one handler with some of it; either
way by a known purger, in any state. -/
inductive Stage.Of (invs : List Invalidation) : Stage → Prop
  | dispatch {σ : Type} {p : Purger σ} (known : Known p) (st : σ) :
      Of invs ⟨true, (p.dispatch invs st).1.2, (p.dispatch invs st).1.1⟩
  | call {σ : Type} {p : Purger σ} (known : Known p) (kind : Kind) (places : List Nat)
      (apart : places.Nodup) (within : ∀ i ∈ places, i < invs.length) (st : σ) :
      Of invs ⟨false, (p.callAt kind places invs st).1.2, (p.callAt kind places invs st).1.1⟩

/-- The stages that a list of invalidations goes through. -/
inductive History : List Invalidation → List Stage → Prop
  | done (invs : List Invalidation) : History invs []
  | next {invs : List Invalidation} {stage : Stage} {stages : List Stage} (first : stage.Of invs)
      (rest : History stage.left stages) : History invs (stage :: stages)

theorem Stage.Of.moved {invs : List Invalidation} {stage : Stage} (first : stage.Of invs) :
    Moved invs stage.left := by
  cases first with
  | dispatch known st => exact Purger.dispatch_moved _ invs st
  | call known kind places apart within st =>
      exact Purger.callAt_moved known.forward kind apart within st

theorem Stage.Of.terminal {invs : List Invalidation} {stage : Stage} (first : stage.Of invs)
    (dispatched : stage.dispatched) (returned : ∀ panic, stage.ending ≠ .panicked panic) :
    ∀ inv ∈ stage.left, inv.isTerminal := by
  cases first with
  | dispatch known st => exact Purger.dispatch_terminal returned
  | call known kind places apart within st => cases dispatched

theorem History.moved {invs : List Invalidation} {stages : List Stage}
    (history : History invs stages) : ∀ stage ∈ stages, Moved invs stage.left := by
  induction history with
  | done invs => exact fun _ among => absurd among List.not_mem_nil
  | next first rest ih =>
      refine List.forall_mem_cons.mpr ⟨first.moved, ?_⟩
      exact fun stage among => first.moved.trans (ih stage among)

theorem History.pairwise {invs : List Invalidation} {stages : List Stage}
    (history : History invs stages) : (invs :: stages.map (·.left)).Pairwise Moved := by
  induction history with
  | done invs => exact List.pairwise_singleton _ invs
  | next first rest ih =>
      refine List.pairwise_cons.mpr ⟨?_, ih⟩
      exact List.forall_mem_map.mpr (History.next first rest).moved

theorem History.suffix {invs : List Invalidation} {before after : List Stage} {stage : Stage}
    (history : History invs (before ++ stage :: after)) :
    (∃ earlier, stage.Of earlier) ∧ History stage.left after := by
  induction before generalizing invs with
  | nil =>
      cases history with
      | next first rest => exact ⟨⟨invs, first⟩, rest⟩
  | cons other others ih =>
      cases history with
      | next first rest => exact ih rest

/-- No handler of a known purger takes back a state. Hence any history of calls, returned or broken
off, leaves each invalidation the same but for its state; this moves forward only, and not any more
once it is terminal. After a dispatch that returned, nothing changes at all. -/
theorem states_move_forward {invs : List Invalidation} {stages : List Stage}
    (history : History invs stages) :
    (∀ {σ : Type} {p : Purger σ}, Known p → p.Forward) ∧
      (invs :: stages.map (·.left)).Pairwise (List.Forall₂ fun inv inv' =>
        inv.MovesTo inv' ∧ (inv.isTerminal → inv' = inv)) ∧
      ∀ before stage after, stages = before ++ stage :: after → stage.dispatched →
        (∀ panic, stage.ending ≠ .panicked panic) →
          (∀ inv ∈ stage.left, inv.isTerminal) ∧ ∀ later ∈ after, later.left = stage.left := by
  refine ⟨Known.forward, history.pairwise.imp fun moved => ?_, ?_⟩
  · exact moved.imp fun _ _ moves => ⟨moves, moves.eq_of_isTerminal⟩
  · rintro before stage after rfl dispatched returned
    obtain ⟨⟨earlier, own⟩, rest⟩ := history.suffix
    have terminal := own.terminal dispatched returned
    exact ⟨terminal, fun later among => (rest.moved later among).eq_of_isTerminal terminal⟩

/-- A site that was being purged when a handler broke off fails in a fleet without addresses, and a
vendor does not change that. -/
theorem states_move_forward_settled :
    let site := Invalidation.ofId 0 .everything ""
    let outside : Rehearsal := ⟨[], "site-a", none, Rehearsal.opening, [], [], true⟩
    let broken : Purger Unit := .acting "broken" [.everything] fun _ _ =>
      pure ([(0, .processing)], .panicked ⟨"gone"⟩)
    let fleet := Fleet.purger Rehearsal.surroundings ⟨10, 5⟩
    let vendor := Vendor.purger Rehearsal.surroundings
    let sent := (fleet.dispatch [site.process] (.start outside)).1.1
    (broken.callAt .everything [0] [site] ()).1.1 = [site.process] ∧ sent = [site.fail] ∧
      (vendor.dispatch sent (.start outside)).1.1 = sent := by
  intro site outside broken fleet vendor sent
  have called : Stage.Of [site] ⟨false, .panicked ⟨"gone"⟩, [site.process]⟩ :=
    .call (p := broken) (.acting _ _ _) .everything [0] (by decide) (by decide) ()
  have failed : Stage.Of [site.process] ⟨true, .done, sent⟩ :=
    .dispatch (p := fleet) (.fleet _ _) (.start outside)
  have kept : Stage.Of sent ⟨true, (vendor.dispatch sent (.start outside)).1.2,
      (vendor.dispatch sent (.start outside)).1.1⟩ :=
    .dispatch (p := vendor) (.vendor _) (.start outside)
  obtain ⟨-, -, fixed⟩ := states_move_forward (.next called (.next failed (.next kept (.done _))))
  obtain ⟨-, same⟩ := fixed [_] _ [_] rfl rfl nofun
  exact ⟨rfl, rfl, same _ List.mem_cons_self⟩

end CachePurge
