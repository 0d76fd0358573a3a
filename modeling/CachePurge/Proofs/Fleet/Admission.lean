import CachePurge.Proofs.Fleet.Counting
import CachePurge.Proofs.Settings.Fleet
import Mathlib.Order.Lattice

/-!
Which settings a purger can work with. All of them can be read from JSON, and none is checked. Their
numbers may be anything but for one: a purger that may have more requests at once than permits can
be given out panics as soon as it has any to send.
-/

namespace CachePurge.Fleet

variable {ε : Type}

theorem one_le_groupSize (settings : FleetSettings) : 1 ≤ (Pace.ofSettings settings).groupSize :=
  UInt64.le_iff_toNat_le.mp (FleetSettings.one_le_max settings.tagGroupSize)

/-- Raising a limit of zero to one does not take it beyond the permits that can be given out. -/
theorem lt_ofSettings_iff (settings : FleetSettings) :
    Fanout.maxConcurrency < (Pace.ofSettings settings).concurrency ↔
      Fanout.maxConcurrency < settings.concurrency.toNat := by
  change _ < (max settings.concurrency 1).toNat ↔ _
  rw [FleetSettings.toNat_max, lt_sup_iff]
  exact or_iff_left (by decide)

/-- Whatever the surroundings do, a dispatch of any list under any settings, all of which can be
read, ends without a fault; but it panics if the limit is beyond the permits that can be given out
and anything is to be fanned out. -/
theorem dispatch_panics_iff (s : Surroundings ε) (settings : FleetSettings)
    (invs : List Invalidation) (l : Ledger ε) :
    (∃ j, FleetSettings.ofJson? j = some settings) ∧
    1 ≤ (Pace.ofSettings settings).groupSize ∧
    ((purger s (Pace.ofSettings settings)).dispatch invs l).1.2 =
      if Fanout.maxConcurrency < settings.concurrency.toNat ∧ ∃ inv ∈ invs, fansOut inv = true
      then .panicked Fanout.tooManyPermits else .done := by
  refine ⟨⟨_, settings.ofJson?_toJson⟩, one_le_groupSize settings, ?_⟩
  rw [dispatch_eq]
  simp only [← lt_ofSettings_iff]
  split
  case isTrue beyond =>
    obtain ⟨beyond, inv, inside, fans⟩ := beyond
    exact (dispatchKinds_of_lt beyond (by decide) inside inv.kind.mem_all fans).1
  case isFalse within =>
    refine (dispatchKinds_reads Kind.nodup_all ?_).1
    rcases Nat.lt_or_ge Fanout.maxConcurrency (Pace.ofSettings settings).concurrency with
      beyond | fits
    · refine .inr fun inv inside => ?_
      exact Bool.eq_false_iff.mpr fun fans => within ⟨beyond, inv, inside, fans⟩
    · exact .inl fits

/-- One more than can be given out is read from variables, and one tag makes the purger panic. -/
theorem dispatch_panics_iff_limit :
    let given (limit : String) := FleetSettings.ofVariables [⟨"PURGE_SITE_IDENTIFIER", "site-a"⟩,
      ⟨"PURGE_EDGE_ADDRESSES", "10.0.0.1"⟩, ⟨"PURGE_CONCURRENCY", limit⟩]
    let fleet : Rehearsal := ⟨["10.0.0.1"], "site-a", none, 0, ⟨[], [], true⟩⟩
    let ending (settings : FleetSettings) := ((purger Rehearsal.surroundings
      (Pace.ofSettings settings)).dispatch [Invalidation.ofId 0 .tag "a"] (.start fleet)).1.2
    (∃ settings, given "2305843009213693951" = .ok settings ∧ ending settings = .done) ∧
    ∃ settings, given "2305843009213693952" = .ok settings ∧
      ending settings = .panicked Fanout.tooManyPermits := by
  intro given fleet ending
  have settled (settings : FleetSettings) := (dispatch_panics_iff Rehearsal.surroundings settings
    [Invalidation.ofId 0 .tag "a"] (.start fleet)).2.2
  refine ⟨⟨⟨["10.0.0.1"], "site-a", 15, 2305843009213693951, 1500, 3000⟩, by decide +kernel,
    (settled _).trans (if_neg fun both => absurd both.1 (by decide))⟩,
    ⟨["10.0.0.1"], "site-a", 15, 2305843009213693952, 1500, 3000⟩, by decide +kernel,
    (settled _).trans (if_pos ⟨by decide, _, List.mem_cons_self, by decide +kernel⟩)⟩

end CachePurge.Fleet
