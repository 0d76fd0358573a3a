import CachePurge.Proofs.Invalidation.Advance
import CachePurge.Proofs.Ledger
import CachePurge.Purger.Basic

/-!
Programs that run side by side, each on a state of its own: related states lead to related answers
and again to related states. Two purgers whose handlers go side by side dispatch so, too.
-/

namespace CachePurge

/-- From related states two programs come to related answers and related states. -/
def Lockstep {α β σ τ : Type} (ρ : α → β → Prop) (R : σ → τ → Prop) (x : StateM σ α)
    (y : StateM τ β) : Prop :=
  ∀ st st', R st st' → ρ (x st).1 (y st').1 ∧ R (x st).2 (y st').2

namespace Lockstep

variable {α β γ δ σ τ : Type} {ρ : α → β → Prop} {ρ' : γ → δ → Prop} {R : σ → τ → Prop}

theorem pure {a : α} {b : β} (related : ρ a b) : Lockstep ρ R (Pure.pure a) (Pure.pure b) :=
  fun _ _ same => ⟨related, same⟩

theorem bind {x : StateM σ α} {y : StateM τ β} {f : α → StateM σ γ} {g : β → StateM τ δ}
    (first : Lockstep ρ R x y) (second : ∀ a b, ρ a b → Lockstep ρ' R (f a) (g b)) :
    Lockstep ρ' R (x >>= f) (y >>= g) := by
  intro st st' same
  obtain ⟨related, left⟩ := first st st' same
  exact second _ _ related _ _ left

/-- After equal answers only equal continuations need to be compared. -/
theorem bind_eq {x : StateM σ α} {y : StateM τ α} {f : α → StateM σ γ} {g : α → StateM τ δ}
    (first : Lockstep Eq R x y) (second : ∀ a, Lockstep ρ' R (f a) (g a)) :
    Lockstep ρ' R (x >>= f) (y >>= g) :=
  first.bind fun a _ same => same ▸ second a

theorem mapM {f : α → StateM σ γ} {g : α → StateM τ γ} (each : ∀ a, Lockstep Eq R (f a) (g a))
    (xs : List α) : Lockstep Eq R (xs.mapM f) (xs.mapM g) := by
  induction xs with
  | nil => exact .pure rfl
  | cons x rest ih =>
      rw [List.mapM_cons, List.mapM_cons]
      exact (each x).bind_eq fun _ => ih.bind_eq fun _ => .pure rfl

theorem forM {f : α → StateM σ Unit} {g : α → StateM τ Unit}
    (each : ∀ a, Lockstep Eq R (f a) (g a)) (xs : List α) :
    Lockstep Eq R (xs.forM f) (xs.forM g) := by
  induction xs with
  | nil => exact .pure rfl
  | cons x rest ih => exact (each x).bind_eq fun _ => ih

/-- A request goes the same way from states in which notes and deliveries do. -/
theorem send {ε : Type} {R : Ledger ε → Ledger ε → Prop} {s : Surroundings ε}
    (noted : ∀ event, Lockstep Eq R (Ledger.note event) (Ledger.note event))
    (delivered : ∀ message,
      Lockstep Eq R (Ledger.ask (s.deliver message)) (Ledger.ask (s.deliver message)))
    (trusting : Bool) (request : Http.Request) :
    Lockstep Eq R (Ledger.send s trusting request) (Ledger.send s trusting request) := by
  rw [Ledger.send]
  split
  · exact (noted _).bind_eq fun _ => .pure rfl
  · exact (delivered _).bind_eq fun _ => (noted _).bind_eq fun _ => .pure rfl

section Dispatch
variable {p : Purger σ} {q : Purger τ} {fit : Invalidation → Prop}

/-- What fits must not depend on states, since these change from one handler to the next. -/
theorem dispatchKinds (steady : ∀ inv inv' : Invalidation, inv.IsStill inv' → fit inv → fit inv')
    (each : ∀ kind batch, batch ≠ [] → (∀ inv ∈ batch, inv.kind = kind ∧ fit inv) →
      Lockstep Eq R (p.handle kind batch) (q.handle kind batch))
    (kinds : List Kind) (first : Option Fault) {invs : List Invalidation}
    (all : ∀ inv ∈ invs, fit inv) :
    Lockstep Eq R (p.dispatchKinds kinds first invs) (q.dispatchKinds kinds first invs) := by
  induction kinds generalizing first invs with
  | nil => exact .pure rfl
  | cons kind rest ih =>
      rw [Purger.dispatchKinds, Purger.dispatchKinds]
      split
      · exact ih first all
      · next nonempty =>
          have handled := each kind (invs.filter (·.kind = kind))
            (fun empty => nonempty (List.isEmpty_iff.mpr empty)) fun inv among =>
              have ⟨inside, own⟩ := List.mem_filter.mp among
              ⟨of_decide_eq_true own, all inv inside⟩
          refine handled.bind_eq ?_
          rintro ⟨states, ending⟩
          have later : ∀ inv ∈ Invalidation.advanceEach (·.kind = kind) invs states, fit inv := by
            intro inv among
            obtain ⟨old, inside, still⟩ := Invalidation.still_of_mem
              (Invalidation.advanceEach_still (·.kind = kind) invs states) among
            exact steady old inv still (all old inside)
          cases ending with
          | done => exact ih first later
          | failed fault => exact ih _ later
          | panicked panic => exact .pure rfl

end Dispatch
end Lockstep
end CachePurge
