import CachePurge.Proofs.Fleet.Accounting
import CachePurge.Rehearsal

/-!
The counters of outcomes over a whole dispatch. What succeeds is counted exactly; what fails is
counted but for the pages that cannot be asked for, so the counters balance just when there are none
of these.
-/

namespace CachePurge.Fleet

open Invalidation (length_of_isTerminal)

variable {ε : Type}

theorem purger_handle_accounts (s : Surroundings ε) (pace : Pace) (l : Ledger ε) {kind : Kind}
    {batch : List Invalidation} (own : ∀ inv ∈ batch, inv.kind = kind)
    (unsettled : ∀ inv ∈ batch, inv.isTerminal = false) :
    ∃ run, Accounts pace l batch run ∧
      (((purger s pace).handle kind batch l).1 = (run.1.1.map (·.state), run.1.2)) ∧
      ((purger s pace).handle kind batch l).2.tally = run.2.tally := by
  have entered := handle_accounts s pace (Ledger.note (.enter kind) l).2 own unsettled
  refine ⟨handle s pace kind batch (Ledger.note (.enter kind) l).2, ?_, rfl, rfl⟩
  exact ⟨entered.still, entered.counted, entered.uncounted, entered.ending⟩

/-- Some kinds were handled: those that were settled on the way are counted, the others left. -/
structure KindsAccount (pace : Pace) (kinds : List Kind) (l : Ledger ε) (invs : List Invalidation)
    (run : (List Invalidation × Ending) × Ledger ε) (after : List Invalidation) : Prop where
  still : List.Forall₂ Invalidation.IsStill invs run.1.1
  perm : run.1.1.Perm (after ++ invs.filter fun inv => decide (inv.kind ∉ kinds))
  counted : l.tally.Gains (countedStates after) run.2.tally
  uncounted : ∀ inv ∈ after, isUncounted inv = true → inv.state ≠ .succeeded
  ending : run.1.2 = .done ∧ (∀ inv ∈ run.1.1, inv.isTerminal = true) ∨
    Fanout.maxConcurrency < pace.concurrency ∧ run.1.2 = .panicked Fanout.tooManyPermits

section Step
variable {pace : Pace} {kind : Kind} {rest : List Kind} {l l₁ : Ledger ε}
  {invs invs₁ batch : List Invalidation} {run : (List Invalidation × Ending) × Ledger ε}

/-- Those outside of some kinds are those outside of the first one, and then of the rest. -/
theorem filter_not_mem_cons (kind : Kind) (rest : List Kind) (invs : List Invalidation) :
    (invs.filter fun inv => decide (inv.kind ∉ kind :: rest)) =
      (invs.filter fun inv => !decide (inv.kind = kind)).filter
        fun inv => decide (inv.kind ∉ rest) := by
  rw [List.filter_filter]
  refine List.filter_congr fun inv _ => ?_
  by_cases same : inv.kind = kind <;> simp [same]

theorem count_countedStates_of_new (untouched : ∀ inv ∈ invs, inv.state = .new) {state : State}
    (closed : state.isTerminal = true) : (countedStates invs).count state = 0 := by
  refine List.count_eq_zero.mpr fun inside => ?_
  obtain ⟨inv, among, rfl⟩ := List.mem_map.mp inside
  rw [untouched inv (List.mem_filter.mp among).1] at closed
  cases closed

theorem KindsAccount.skip (none : invs.filter (fun inv => decide (inv.kind = kind)) = [])
    {after : List Invalidation} (later : KindsAccount pace rest l invs run after) :
    KindsAccount pace (kind :: rest) l invs run after := by
  obtain ⟨still, perm, counted, uncounted, ending⟩ := later
  refine ⟨still, ?_, counted, uncounted, ending⟩
  have all : (invs.filter fun inv => !decide (inv.kind = kind)) = invs := by
    refine List.filter_eq_self.mpr fun inv inside => ?_
    rw [Bool.not_eq_true', ← Bool.not_eq_true]
    exact List.filter_eq_nil_iff.mp none inv inside
  rwa [filter_not_mem_cons, all]

theorem filter_perm_of_handled (fresh : kind ∉ rest) (own : ∀ inv ∈ batch, inv.kind = kind)
    (handled : invs₁.Perm (batch ++ invs.filter fun inv => !decide (inv.kind = kind))) :
    (invs₁.filter fun inv => decide (inv.kind ∉ rest)).Perm
      (batch ++ invs.filter fun inv => decide (inv.kind ∉ kind :: rest)) := by
  have whole : (batch.filter fun inv => decide (inv.kind ∉ rest)) = batch := by
    refine List.filter_eq_self.mpr fun inv inside => ?_
    rw [own inv inside]
    exact decide_eq_true fresh
  have split := handled.filter fun inv => decide (inv.kind ∉ rest)
  rwa [List.filter_append, whole, ← filter_not_mem_cons] at split

theorem new_of_handled (fresh : kind ∉ rest) (own : ∀ inv ∈ batch, inv.kind = kind)
    (handled : invs₁.Perm (batch ++ invs.filter fun inv => !decide (inv.kind = kind)))
    (unhandled : ∀ inv ∈ invs, inv.kind ∈ rest → inv.state = .new) :
    ∀ inv ∈ invs₁, inv.kind ∈ rest → inv.state = .new := by
  intro inv inside later
  cases List.mem_append.mp (handled.mem_iff.mp inside) with
  | inl now => exact absurd (own inv now ▸ later) fresh
  | inr others => exact unhandled inv (List.mem_filter.mp others).1 later

theorem isTerminal_of_handled (closed : ∀ inv ∈ batch, inv.isTerminal = true)
    (handled : invs₁.Perm (batch ++ invs.filter fun inv => !decide (inv.kind = kind)))
    (settled : ∀ inv ∈ invs, inv.kind ∉ kind :: rest → inv.isTerminal = true) :
    ∀ inv ∈ invs₁, inv.kind ∉ rest → inv.isTerminal = true := by
  intro inv inside outside
  cases List.mem_append.mp (handled.mem_iff.mp inside) with
  | inl now => exact closed inv now
  | inr others =>
      obtain ⟨among, other⟩ := List.mem_filter.mp others
      rw [Bool.not_eq_true', decide_eq_false_iff_not] at other
      exact settled inv among (mt List.mem_cons.mp (not_or.mpr ⟨other, outside⟩))

theorem KindsAccount.step (fresh : kind ∉ rest) (own : ∀ inv ∈ batch, inv.kind = kind)
    (still₁ : List.Forall₂ Invalidation.IsStill invs invs₁)
    (handled : invs₁.Perm (batch ++ invs.filter fun inv => !decide (inv.kind = kind)))
    (counted₁ : l.tally.Gains (countedStates batch) l₁.tally)
    (uncounted₁ : ∀ inv ∈ batch, isUncounted inv = true → inv.state = .failed)
    {after : List Invalidation} (later : KindsAccount pace rest l₁ invs₁ run after) :
    KindsAccount pace (kind :: rest) l invs run (after ++ batch) := by
  obtain ⟨still, perm, counted, uncounted, ending⟩ := later
  refine ⟨Invalidation.still_trans still₁ still, ?_, ?_, fun inv inside silent => ?_, ending⟩
  · rw [List.append_assoc]
    exact perm.trans ((filter_perm_of_handled fresh own handled).append_left after)
  · rw [countedStates_append]
    exact (counted₁.trans counted).perm List.perm_append_comm
  · cases List.mem_append.mp inside with
    | inl later => exact uncounted inv later silent
    | inr now =>
        rw [uncounted₁ inv now silent]
        decide

theorem KindsAccount.stop (unhandled : ∀ inv ∈ invs, inv.kind ∈ rest → inv.state = .new)
    (still : List.Forall₂ Invalidation.IsStill invs invs₁)
    (handled : invs₁.Perm (batch ++ invs.filter fun inv => !decide (inv.kind = kind)))
    (counted : l.tally.Gains (countedStates batch) l₁.tally)
    (uncounted : ∀ inv ∈ batch, isUncounted inv = true → inv.state = .failed)
    (beyond : Fanout.maxConcurrency < pace.concurrency) :
    ∃ after, KindsAccount pace (kind :: rest) l invs
      ((invs₁, .panicked Fanout.tooManyPermits), l₁) after := by
  have others := (List.filter_append_perm (fun inv => decide (inv.kind ∈ rest))
    (invs.filter fun inv => !decide (inv.kind = kind))).symm
  have untouched : ∀ inv ∈ (invs.filter fun inv => !decide (inv.kind = kind)).filter
      fun inv => decide (inv.kind ∈ rest), inv.state = .new := by
    intro inv inside
    obtain ⟨among, later⟩ := List.mem_filter.mp inside
    exact unhandled inv (List.mem_filter.mp among).1 (of_decide_eq_true later)
  refine ⟨batch ++ (invs.filter fun inv => !decide (inv.kind = kind)).filter
    fun inv => decide (inv.kind ∈ rest), still, ?_, ?_, fun inv inside silent => ?_,
    .inr ⟨beyond, rfl⟩⟩
  · rw [List.append_assoc, filter_not_mem_cons]
    simp only [decide_not]
    exact handled.trans (others.append_left batch)
  · rw [countedStates_append]
    refine counted.congr fun state closed => ?_
    rw [List.count_append, count_countedStates_of_new untouched closed, Nat.add_zero]
  · cases List.mem_append.mp inside with
    | inl now =>
        rw [uncounted inv now silent]
        decide
    | inr never =>
        rw [untouched inv never]
        decide

end Step

theorem dispatchKinds_accounts (s : Surroundings ε) (pace : Pace) {kinds : List Kind}
    (distinct : kinds.Nodup) {invs : List Invalidation}
    (fresh : ∀ inv ∈ invs, inv.kind ∈ kinds → inv.state = .new)
    (settled : ∀ inv ∈ invs, inv.kind ∉ kinds → inv.isTerminal = true) (l : Ledger ε) :
    ∃ after, KindsAccount pace kinds l invs ((purger s pace).dispatchKinds kinds none invs l)
      after := by
  induction kinds generalizing invs l with
  | nil =>
      have closed : invs.map Invalidation.fail = invs :=
        Invalidation.map_fail_of_isTerminal fun inv inside => settled inv inside List.not_mem_nil
      have run : (purger s pace).dispatchKinds [] none invs l = ((invs, .done), l) :=
        congrArg (fun after => ((after, Ending.done), l)) closed
      rw [run]
      refine ⟨[], List.forall₂_same.mpr fun _ _ => rfl, ?_, .refl _, fun inv inside => ?_, ?_⟩
      · rw [List.nil_append, List.filter_eq_self.mpr fun _ _ => decide_eq_true List.not_mem_nil]
      · cases inside
      · exact .inl ⟨rfl, fun inv inside => settled inv inside List.not_mem_nil⟩
  | cons kind rest ih =>
      obtain ⟨absent, distinct⟩ := List.nodup_cons.mp distinct
      have unhandled : ∀ inv ∈ invs, inv.kind ∈ rest → inv.state = .new :=
        fun inv inside later => fresh inv inside (List.mem_cons_of_mem kind later)
      have own : ∀ inv ∈ invs.filter (fun inv => decide (inv.kind = kind)), inv.kind = kind :=
        fun inv inside => of_decide_eq_true (List.mem_filter.mp inside).2
      have new : ∀ inv ∈ invs.filter (fun inv => decide (inv.kind = kind)), inv.state = .new := by
        intro inv inside
        refine fresh inv (List.mem_filter.mp inside).1 ?_
        rw [own inv inside]
        exact List.mem_cons_self
      simp only [Purger.dispatchKinds]
      cases none : (invs.filter fun inv => decide (inv.kind = kind)).isEmpty with
      | true =>
          rw [List.isEmpty_iff] at none
          have settled' : ∀ inv ∈ invs, inv.kind ∉ rest → inv.isTerminal = true := by
            intro inv inside outside
            refine settled inv inside fun among => ?_
            cases List.mem_cons.mp among with
            | inl same => exact List.filter_eq_nil_iff.mp none inv inside (decide_eq_true same)
            | inr later => exact outside later
          obtain ⟨after, later⟩ := ih distinct unhandled settled' l
          exact ⟨after, later.skip none⟩
      | false =>
          rw [if_neg Bool.false_ne_true]
          have pending : ∀ inv ∈ invs.filter (fun inv => decide (inv.kind = kind)),
              inv.isTerminal = false := fun inv inside => by
            rw [Invalidation.isTerminal, new inv inside]
            rfl
          obtain ⟨run, account, answer, tally⟩ :=
            purger_handle_accounts s pace l own pending
          have related : List.Forall₂ (fun inv inv' => inv.state = .new ∧ inv.IsStill inv')
              (invs.filter fun inv => decide (inv.kind = kind)) run.1.1 :=
            (List.forall₂_and_left _ _).mpr ⟨new, account.still⟩
          have handled := Invalidation.advanceEach_perm related
          have still := Invalidation.advanceEach_still (fun inv => decide (inv.kind = kind)) invs
            (run.1.1.map (·.state))
          have own' : ∀ inv ∈ run.1.1, inv.kind = kind := by
            intro inv' inside
            obtain ⟨inv, before, same⟩ := Invalidation.still_of_mem account.still inside
            rw [same]
            exact own inv before
          have counted := account.counted
          rw [← tally] at counted
          simp only [bind_apply, answer]
          cases account.ending with
          | inl found =>
              obtain ⟨done, closed⟩ := found
              rw [done]
              have fresh' := new_of_handled absent own' handled unhandled
              have settled' := isTerminal_of_handled closed handled settled
              obtain ⟨after, later⟩ := ih distinct fresh' settled' _
              exact ⟨_, later.step absent own' still handled counted account.uncounted⟩
          | inr found =>
              obtain ⟨beyond, refused⟩ := found
              rw [refused]
              exact KindsAccount.stop unhandled still handled counted account.uncounted beyond

/-- A page that failed, and that nobody counted. -/
def isSilentFailure (inv : Invalidation) : Bool :=
  isUncounted inv && decide (inv.state = .failed)

theorem countP_countedStates (invs : List Invalidation) (state : State) :
    invs.countP (fun inv => decide (inv.state = state)) =
      (countedStates invs).count state +
        invs.countP fun inv => isUncounted inv && decide (inv.state = state) := by
  rw [countedStates_eq_flatMap]
  induction invs with
  | nil => rfl
  | cons inv rest ih =>
      rw [List.countP_cons, List.countP_cons, ih, List.flatMap_cons, List.count_append]
      cases isUncounted inv with
      | true => simp only [Bool.true_and, if_true, List.count_nil]; omega
      | false =>
          simp only [Bool.false_and, Bool.false_eq_true, if_false, List.count_singleton,
            beq_iff_eq, decide_eq_true_eq]
          omega

theorem countP_isUncounted {invs final : List Invalidation}
    (still : List.Forall₂ Invalidation.IsStill invs final) :
    final.countP isUncounted = invs.countP isUncounted := by
  induction still with
  | nil => rfl
  | cons same _ ih => rw [List.countP_cons, List.countP_cons, ih, isUncounted_of_isStill same]

theorem ofNat_eq_zero_iff (n : Nat) : UInt64.ofNat n = 0 ↔ UInt64.size ∣ n := by
  rw [← UInt64.toNat_inj, UInt64.toNat_ofNat', Nat.dvd_iff_mod_eq_zero]
  rfl

/-- Over a dispatch of new invalidations the counter of successes grows by what succeeds, and that
of failures by what fails but for the pages that cannot be asked for. So that counter balances just
when there are none of these, or as many as it takes to start over. -/
theorem dispatch_conserves_iff (s : Surroundings ε) (pace : Pace) (invs : List Invalidation)
    (l : Ledger ε) (fresh : ∀ inv ∈ invs, inv.state = .new) :
    let run := (purger s pace).dispatch invs l
    let succeeded := run.1.1.countP fun inv => decide (inv.state = .succeeded)
    let failed := run.1.1.countP fun inv => decide (inv.state = .failed)
    let silent := run.1.1.countP isSilentFailure
    run.2.tally.succeeded = l.tally.succeeded + .ofNat succeeded ∧
    run.2.tally.failed + .ofNat silent = l.tally.failed + .ofNat failed ∧
    (run.2.tally.failed = l.tally.failed + .ofNat failed ↔ UInt64.size ∣ silent) ∧
    (pace.concurrency ≤ Fanout.maxConcurrency →
      run.1.2 = .done ∧ succeeded + failed = invs.length ∧ silent = invs.countP isUncounted) := by
  intro run succeeded failed silent
  obtain ⟨after, still, perm, counted, uncounted, ending⟩ :=
    dispatchKinds_accounts s pace Kind.nodup_all
      (fun inv inside _ => fresh inv inside)
      (fun inv _ outside => absurd inv.kind.mem_all outside) l
  rw [← dispatch_eq] at still perm counted ending
  have all : (invs.filter fun inv => decide (inv.kind ∉ Kind.all)) = [] :=
    List.filter_eq_nil_iff.mpr fun inv _ => by simp only [inv.kind.mem_all, not_true_eq_false,
      decide_false, Bool.false_eq_true, not_false_eq_true]
  rw [all, List.append_nil] at perm
  have succeeded_eq : succeeded = (countedStates after).count .succeeded := by
    have none : after.countP (fun inv => isUncounted inv && decide (inv.state = .succeeded)) = 0 :=
      List.countP_eq_zero.mpr fun inv inside both => by
        rw [Bool.and_eq_true, decide_eq_true_eq] at both
        exact uncounted inv inside both.1 both.2
    refine (perm.countP_eq _).trans ?_
    rw [countP_countedStates, none, Nat.add_zero]
  have failed_eq : failed = (countedStates after).count .failed + silent := by
    refine (perm.countP_eq _).trans ((countP_countedStates after .failed).trans ?_)
    exact congrArg _ (perm.countP_eq isSilentFailure).symm
  have balance : run.2.tally.failed + .ofNat silent = l.tally.failed + .ofNat failed := by
    rw [counted.failed, failed_eq, UInt64.ofNat_add, UInt64.add_assoc]
  refine ⟨?_, balance, ?_, fun within => ?_⟩
  · rw [counted.succeeded, succeeded_eq]
  · rw [← ofNat_eq_zero_iff, ← balance]
    exact eq_comm.trans UInt64.add_eq_left
  · cases ending with
    | inl found =>
        obtain ⟨done, closed⟩ := found
        refine ⟨done, (length_of_isTerminal closed).trans still.length_eq.symm, ?_⟩
        rw [← countP_isUncounted still]
        refine List.countP_congr fun inv inside => ?_
        rw [isSilentFailure, Bool.and_eq_true, decide_eq_true_eq, and_iff_left_iff_imp]
        intro unfit
        have left := closed inv inside
        have kept := uncounted inv (perm.mem_iff.mp inside) unfit
        rw [Invalidation.isTerminal] at left
        cases h : inv.state with
        | new | processing => rw [h] at left; cases left
        | succeeded => exact absurd h kept
        | failed => rfl
    | inr found =>
        obtain ⟨beyond, -⟩ := found
        omega

theorem failed_uncounted (final : List Invalidation) (failed : UInt64)
    (balance : failed + .ofNat (final.countP isSilentFailure) =
      0 + .ofNat (final.countP fun inv => decide (inv.state = .failed)))
    (both : final.countP (fun inv => decide (inv.state = .succeeded)) +
      final.countP (fun inv => decide (inv.state = .failed)) = 1)
    (silent : final.countP isSilentFailure = 1) :
    final.countP (fun inv => decide (inv.state = .failed)) = 1 ∧ failed = 0 := by
  have below : final.countP isSilentFailure ≤
      final.countP fun inv => decide (inv.state = .failed) :=
    List.countP_mono_left fun inv _ silent => (Bool.and_eq_true _ _ ▸ silent).2
  have one : final.countP (fun inv => decide (inv.state = .failed)) = 1 := by omega
  rw [silent, one] at balance
  exact ⟨one, (UInt64.add_left_inj _).mp balance⟩

/-- A path is not a page that can be asked for: it fails, and no counter says so. -/
theorem dispatch_conserves_iff_path :
    let page := Invalidation.ofId 0 .url "/relative/path"
    let fleet : Rehearsal := ⟨["10.0.0.1"], "site-a", none, 0, ⟨[], [], true⟩⟩
    ∃ run, run = (purger Rehearsal.surroundings ⟨15, 8⟩).dispatch [page] (.start fleet) ∧
      run.1.1.countP (fun inv => decide (inv.state = .failed)) = 1 ∧ run.2.tally.failed = 0 := by
  intro page fleet
  refine ⟨_, rfl, ?_⟩
  obtain ⟨-, balance, -, within⟩ :=
    dispatch_conserves_iff Rehearsal.surroundings ⟨15, 8⟩ [page] (.start fleet) (by decide)
  obtain ⟨-, both, silent⟩ := within (by decide)
  have unaskable : [page].countP isUncounted = 1 := by decide
  exact failed_uncounted _ _ balance both (silent.trans unaskable)

end CachePurge.Fleet
