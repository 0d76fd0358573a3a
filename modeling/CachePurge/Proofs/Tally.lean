import CachePurge.Invalidation.Basic
import CachePurge.Tally

/-!
What the counters of a tally grow by. Outcomes are counted in batches at several places; together
they grow by the states that the invalidations were left in, modulo `2^64` and in any order.
-/

namespace CachePurge
namespace Tally

theorem request_sent (t : Tally) (success : Bool) (latency : Latency) :
    (t.request success latency).requestsSent = t.requestsSent + 1 := rfl

theorem request_failed (t : Tally) (success : Bool) (latency : Latency) :
    (t.request success latency).requestsFailed =
      t.requestsFailed + UInt64.ofNat (if success then 0 else 1) := by
  cases success with
  | false => rfl
  | true => exact (UInt64.add_zero _).symm

/-- One tally becomes another by counting, besides requests, invalidations in some states. -/
structure Gains (t : Tally) (states : List State) (t' : Tally) : Prop where
  succeeded : t'.succeeded = t.succeeded + UInt64.ofNat (states.count .succeeded)
  failed : t'.failed = t.failed + UInt64.ofNat (states.count .failed)

namespace Gains
variable {t t' t'' : Tally} {states more : List State}

theorem refl (t : Tally) : t.Gains [] t :=
  ⟨(UInt64.add_zero _).symm, (UInt64.add_zero _).symm⟩

theorem trans (first : t.Gains states t') (second : t'.Gains more t'') :
    t.Gains (states ++ more) t'' where
  succeeded := by
    rw [second.succeeded, first.succeeded, List.count_append, UInt64.ofNat_add, UInt64.add_assoc]
  failed := by
    rw [second.failed, first.failed, List.count_append, UInt64.ofNat_add, UInt64.add_assoc]

/-- States that are not terminal do not count. -/
theorem congr (gains : t.Gains states t')
    (same : ∀ state, state.isTerminal = true → states.count state = more.count state) :
    t.Gains more t' where
  succeeded := by rw [gains.succeeded, same _ rfl]
  failed := by rw [gains.failed, same _ rfl]

theorem perm (gains : t.Gains states t') (same : states.Perm more) : t.Gains more t' :=
  gains.congr fun state _ => same.count_eq state

end Gains

theorem request_gains (t : Tally) (success : Bool) (latency : Latency) :
    t.Gains [] (t.request success latency) :=
  ⟨(UInt64.add_zero _).symm, (UInt64.add_zero _).symm⟩

theorem outcome_gains (t : Tally) (success : Bool) (n : Nat) :
    t.Gains (List.replicate n (.ofSuccess success)) (t.outcome success n) := by
  cases success <;> constructor <;> simp [outcome, State.ofSuccess, List.count_replicate]

theorem grown (a b : UInt64) : a + b - a = b := by grind

/-- What the counters have grown by from one tally to another, modulo `2^64`. -/
def rise (t t' : Tally) : List UInt64 :=
  [t'.requestsSent - t.requestsSent, t'.requestsFailed - t.requestsFailed,
    t'.succeeded - t.succeeded, t'.failed - t.failed]

theorem rise_trans (t t' t'' : Tally) :
    t.rise t'' = List.zipWith (· + ·) (t.rise t') (t'.rise t'') := by
  have through (a b c : UInt64) : b - a + (c - b) = c - a := by grind
  simp only [rise, List.zipWith_cons_cons, List.zipWith_nil_left, through]

theorem rise_refl (t : Tally) : t.rise t = [0, 0, 0, 0] := by
  simp only [rise, UInt64.sub_self]

theorem rise_outcome (t : Tally) (success : Bool) (n : Nat) :
    t.rise (t.outcome success n) =
      if success then [0, 0, n.toUInt64, 0] else [0, 0, 0, n.toUInt64] := by
  cases success <;>
    simp only [rise, outcome, Bool.false_eq_true, if_false, if_true, UInt64.sub_self, grown]

theorem rise_request (t : Tally) (success : Bool) (latency : Latency) :
    t.rise (t.request success latency) = [1, if success then 0 else 1, 0, 0] := by
  cases success <;>
    simp only [rise, request, Bool.false_eq_true, if_false, if_true, UInt64.sub_self, grown]

end Tally
end CachePurge
