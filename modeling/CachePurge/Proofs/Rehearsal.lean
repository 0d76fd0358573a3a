import CachePurge.Proofs.Fleet.Tries
import CachePurge.Proofs.Vendor.Exchange
import CachePurge.Rehearsal

/-!
What stays while a rehearsal goes on. The answers of the platform and the clock stay as they were
set. A network stays if its rules may be used without bound: it answers a message the same every
time, so what was sent to it tells all that came of it.
-/

namespace CachePurge

open Fleet (Errand Try)
open Vendor (Exchange)

namespace Http

/-- Every rule of the network may be used without bound. -/
def Network.IsUntiring (network : Network) : Prop := ∀ rule ∈ network.rules, rule.uses = none

instance (network : Network) : Decidable network.IsUntiring := List.decidableBAll _ _

theorem Rule.use_untiring {rule : Rule} (untiring : rule.uses = none) : rule.use = rule := by
  cases rule with
  | mk method url host uses reply =>
      cases untiring
      rfl

theorem Rule.answer_untiring {rules : List Rule} (untiring : ∀ rule ∈ rules, rule.uses = none)
    (message : Message) : (Rule.answer message rules).2 = rules := by
  induction rules with
  | nil => rfl
  | cons rule rest ih =>
      obtain ⟨own, others⟩ := List.forall_mem_cons.mp untiring
      simp only [Rule.answer]
      split
      · simp only [Rule.use_untiring own]
      · simp only [ih others]

theorem Network.deliver_untiring {network : Network} (untiring : network.IsUntiring)
    (message : Message) : (network.deliver message).2 = network := by
  simp only [Network.deliver]
  split
  · rfl
  · simp only [Rule.answer_untiring untiring]

end Http

/-- An errand that is run in a rehearsal as it stands. -/
def Fleet.Errand.triedIn (errand : Errand) (r : Rehearsal) : Try :=
  ⟨errand, errand.message?.map fun message => (Rehearsal.surroundings.deliver message r).1⟩

namespace Rehearsal
variable {r r' : Rehearsal}

/-- The same rehearsal at another time. -/
def moved (r : Rehearsal) (now : Nat) : Rehearsal := { r with now }

theorem clock_moved (r : Rehearsal) (now : Nat) : surroundings.clock (r.moved now) = now := rfl

theorem runsForward : surroundings.RunsForward where
  read _ := Nat.le_refl _
  deliver _ _ := Nat.le_refl _

theorem steady (r : Rehearsal) :
    surroundings.Steady r r.edgeAddresses r.siteIdentifier := by
  intro tries r' run
  have same : r'.edgeAddresses = r.edgeAddresses ∧ r'.siteIdentifier = r.siteIdentifier := by
    induction run with
    | rest => exact ⟨rfl, rfl⟩
    | askAddresses _ ih | askSite _ ih | unsent _ _ ih | sent _ _ ih => exact ih
  exact same

theorem now_of_trades {xs : List Exchange} (run : surroundings.Trades r xs r') :
    r'.now = r.now := by
  induction run with
  | rest _ => rfl
  | look _ ih => exact ih
  | @trade r _ _ request _ ih =>
      refine ih.trans ?_
      rw [Surroundings.trade]
      split <;> rfl

theorem deliver_untiring (untiring : r.network.IsUntiring) (message : Http.Message) :
    (surroundings.deliver message r).2 = r := by
  have still := Http.Network.deliver_untiring untiring message
  simp only [surroundings, deliver, still]

theorem trade_untiring (untiring : r.network.IsUntiring) (request : Http.Request) :
    (surroundings.trade request r).2 = r := by
  rw [Surroundings.trade]
  split
  · rfl
  · exact deliver_untiring untiring _

/-- Each try came out as it would have at the start. -/
theorem tries_untiring {tries : List Try} (untiring : r.network.IsUntiring)
    (run : surroundings.Undergoes r tries r') :
    tries = (tries.map (·.toErrand)).map (·.triedIn r) := by
  induction run with
  | rest => rfl
  | askAddresses _ ih | askSite _ ih => exact ih untiring
  | unsent none _ ih =>
      simp only [List.map_cons, Errand.triedIn, none, Option.map_none]
      exact congrArg _ (ih untiring)
  | @sent r _ _ message _ some _ ih =>
      rw [deliver_untiring untiring message] at ih
      simp only [List.map_cons, Errand.triedIn, some, Option.map_some]
      exact congrArg _ (ih untiring)

/-- Each exchange is what its request would have come to at the start. -/
theorem exchange_untiring {xs : List Exchange} (untiring : r.network.IsUntiring)
    (run : surroundings.Trades r xs r') :
    ∀ x ∈ xs, x = (surroundings.trade x.request r).1 := by
  induction run with
  | rest => simp only [List.not_mem_nil, false_imp_iff, implies_true]
  | look _ ih => exact ih untiring
  | @trade r _ _ request _ ih =>
      obtain ⟨own, -, -⟩ := Surroundings.trade_fields surroundings request r
      rw [trade_untiring untiring request] at ih
      intro x among
      cases List.mem_cons.mp among with
      | inl same => rw [same, own]
      | inr later => exact ih untiring x later

end Rehearsal
end CachePurge
