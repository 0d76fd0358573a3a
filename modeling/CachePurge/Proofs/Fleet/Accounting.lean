import CachePurge.Proofs.Fleet.Plan
import CachePurge.Proofs.Fleet.Settling

/-!
The counters of outcomes against the outcomes themselves. Every handler counts what it settles, each
invalidation once and as it comes out; but a page that cannot be asked for is failed uncounted.
-/

namespace CachePurge.Fleet

variable {ε : Type}

/-- A page that cannot be asked for. -/
def isUncounted (inv : Invalidation) : Bool :=
  match inv.kind with
  | .url | .wildcardUrl => !isRoutable inv.expression
  | .tag | .everything => false

/-- The states of those that the purger counts. -/
def countedStates (invs : List Invalidation) : List State :=
  (invs.filter fun inv => !isUncounted inv).map (·.state)

/-- A handler was given a batch when the ledger was `l`: it counted what it left settled, and left
nothing unsettled unless its fan-out was refused. -/
structure Accounts (pace : Pace) (l : Ledger ε) (batch : List Invalidation)
    (run : (List Invalidation × Ending) × Ledger ε) : Prop where
  still : List.Forall₂ Invalidation.IsStill batch run.1.1
  counted : l.tally.Gains (countedStates run.1.1) run.2.tally
  uncounted : ∀ inv ∈ run.1.1, isUncounted inv = true → inv.state = .failed
  ending : run.1.2 = .done ∧ (∀ inv ∈ run.1.1, inv.isTerminal = true) ∨
    Fanout.maxConcurrency < pace.concurrency ∧ run.1.2 = .panicked Fanout.tooManyPermits

theorem isUncounted_of_isStill {inv inv' : Invalidation} (still : inv.IsStill inv') :
    isUncounted inv' = isUncounted inv := by
  rw [still]
  rfl

theorem countedStates_append (invs more : List Invalidation) :
    countedStates (invs ++ more) = countedStates invs ++ countedStates more := by
  rw [countedStates, List.filter_append, List.map_append, countedStates, countedStates]

theorem countedStates_of_counted {invs : List Invalidation}
    (counted : ∀ inv ∈ invs, isUncounted inv = false) :
    countedStates invs = invs.map (·.state) := by
  rw [countedStates, List.filter_eq_self.mpr fun inv inside => by rw [counted inv inside]; rfl]

section Requests
variable (s : Surroundings ε)

theorem attempts_tally {κ : Type} (requests : List (κ × Except Fault Http.Request))
    (l : Ledger ε) : (requests.mapM (fun x => attempt s x.1 x.2) l).2.tally = l.tally := by
  induction requests generalizing l with
  | nil => rfl
  | cons x rest ih =>
      rw [mapM_cons_apply]
      exact (ih _).trans (exchange_tally s x.2 l)

/-- A fan-out counts requests and no outcomes, and only its limit can make it fail. -/
theorem fanOut_gains {κ : Type} (concurrency : Nat) (label : κ → String)
    (requests : List (κ × Except Fault Http.Request)) (l : Ledger ε) :
    l.tally.Gains [] (fanOut s concurrency label requests l).2.tally ∧
      ((∃ results, (fanOut s concurrency label requests l).1 = .ok results) ∨
        Fanout.maxConcurrency < concurrency ∧
          (fanOut s concurrency label requests l).1 = .error Fanout.tooManyPermits) := by
  cases Nat.lt_or_ge Fanout.maxConcurrency concurrency with
  | inl beyond =>
      rw [fanOut_of_lt s beyond]
      exact ⟨.refl _, .inr ⟨beyond, rfl⟩⟩
  | inr within =>
      rw [fanOut_apply s within]
      refine ⟨?_, .inl ⟨_, rfl⟩⟩
      rw [← attempts_tally s requests l]
      exact Fanout.count_gains _ _

theorem purgeSiteAt_gains (site address : String) (l : Ledger ε) :
    l.tally.Gains [] (purgeSiteAt s site address l).2.tally := by
  have kept := exchange_tally s (siteRequest site address) l
  simp only [purgeSiteAt, bind_apply]
  generalize exchange s (siteRequest site address) l = ended at kept
  rw [← kept]
  have counted := Tally.request_gains ended.2.tally ended.1.2.isSuccess
    (Float.toBits ended.1.1.toFloat)
  cases ended.1.2.fault? <;> exact counted

theorem purgeSiteAt_all_gains (site : String) (addresses : List String) (l : Ledger ε) :
    l.tally.Gains [] (addresses.mapM (purgeSiteAt s site) l).2.tally := by
  induction addresses generalizing l with
  | nil => exact .refl _
  | cons address rest ih =>
      rw [mapM_cons_apply]
      exact (purgeSiteAt_gains s site address l).trans (ih _)

end Requests

section Tags
variable {s : Surroundings ε} {pace : Pace} {batch : List Invalidation}

theorem length_groupStates (groups : List (List Invalidation)) (results : Fanout.Results Nat) :
    (groupStates groups results).length = groups.flatten.length := by
  conv_rhs => rw [← List.zipIdx_map_fst 0 groups]
  simp only [groupStates, List.length_flatMap, List.length_replicate, List.length_flatten,
    List.map_map]
  rfl

theorem isTerminal_of_mem_groupStates {groups : List (List Invalidation)}
    {results : Fanout.Results Nat} {state : State} (inside : state ∈ groupStates groups results) :
    state.isTerminal := by
  obtain ⟨x, -, replicated⟩ := List.mem_flatMap.mp inside
  rw [List.eq_of_mem_replicate replicated]
  exact State.isTerminal_ofSuccess _

/-- The states that admitted tags come to are those that rejected ones failed into and those that
the others were given. -/
theorem advanceEach_admitTag_perm (unsettled : ∀ inv ∈ batch, inv.isTerminal = false)
    {states : List State} (length : states.length = batch.countP isSendable)
    (closed : ∀ state ∈ states, state.isTerminal = true) :
    ((Invalidation.advanceEach isSendable (batch.map admitTag) states).map (·.state)).Perm
      (batch.flatMap (fun inv => if isSendable inv then [] else [.failed]) ++ states) := by
  induction batch generalizing states with
  | nil =>
      rw [List.countP_nil, List.length_eq_zero_iff] at length
      rw [length]
      exact .refl _
  | cons inv rest ih =>
      obtain ⟨pending, unsettled⟩ := List.forall_mem_cons.mp unsettled
      rw [List.map_cons, List.flatMap_cons]
      cases h : isSendable inv with
      | false =>
          rw [List.countP_cons_of_neg (by simp [h])] at length
          rw [Invalidation.advanceEach_cons_of_not ((isSendable_admitTag inv).trans h),
            List.map_cons, admitTag_of_not_isSendable h, Invalidation.fail, Invalidation.advance,
            State.advance_failed pending]
          exact (ih unsettled length closed).cons _
      | true =>
          rw [List.countP_cons_of_pos h] at length
          obtain ⟨state, others, rfl⟩ := List.exists_cons_of_length_eq_add_one length
          obtain ⟨last, closed⟩ := List.forall_mem_cons.mp closed
          have moved : (inv.process.advance state).state = state := by
            rw [Invalidation.process, Invalidation.advance, Invalidation.advance,
              State.advance_processing pending]
            cases state <;> first | rfl | cases last
          simp only [Invalidation.advanceEach, isSendable_admitTag, h, if_true, List.map_cons,
            List.nil_append]
          rw [admitTag_of_isSendable h, moved]
          exact ((ih unsettled (Nat.succ.inj length) closed).cons state).trans List.perm_middle.symm

theorem forall₂_admitTag (batch : List Invalidation) :
    List.Forall₂ Invalidation.IsStill batch (batch.map admitTag) := by
  rw [List.forall₂_map_right_iff]
  refine List.forall₂_same.mpr fun inv _ => ?_
  rw [admitTag]
  split <;> exact inv.isStill_advance _

theorem count_map_admitTag (unsettled : ∀ inv ∈ batch, inv.isTerminal = false) {state : State}
    (closed : state.isTerminal = true) :
    (batch.flatMap fun inv => if isSendable inv then [] else [State.failed]).count state =
      ((batch.map admitTag).map (·.state)).count state := by
  induction batch with
  | nil => rfl
  | cons inv rest ih =>
      obtain ⟨pending, unsettled⟩ := List.forall_mem_cons.mp unsettled
      rw [List.flatMap_cons, List.map_cons, List.map_cons, List.count_append, ih unsettled,
        List.count_cons]
      cases h : isSendable inv with
      | true =>
          rw [admitTag_of_isSendable h, Invalidation.process, Invalidation.advance,
            State.advance_processing pending]
          have differ : (State.processing == state) = false := by
            cases state <;> first | rfl | cases closed
          simp only [if_true, List.count_nil, Nat.zero_add, differ, Bool.false_eq_true, if_false,
            Nat.add_zero]
      | false =>
          rw [admitTag_of_not_isSendable h, Invalidation.fail, Invalidation.advance,
            State.advance_failed pending, if_neg Bool.false_ne_true, List.count_singleton,
            Nat.add_comm]

theorem isUncounted_of_tag {inv : Invalidation} (tag : inv.kind = .tag) :
    isUncounted inv = false := by
  rw [isUncounted, tag]

theorem accounts_of_tags {l : Ledger ε} {run : (List Invalidation × Ending) × Ledger ε}
    (tags : ∀ inv ∈ batch, inv.kind = .tag)
    (still : List.Forall₂ Invalidation.IsStill batch run.1.1)
    (gains : l.tally.Gains (run.1.1.map (·.state)) run.2.tally)
    (ending : run.1.2 = .done ∧ (∀ inv ∈ run.1.1, inv.isTerminal = true) ∨
      Fanout.maxConcurrency < pace.concurrency ∧ run.1.2 = .panicked Fanout.tooManyPermits) :
    Accounts pace l batch run := by
  have counted : ∀ inv ∈ run.1.1, isUncounted inv = false := by
    intro inv' inside
    obtain ⟨inv, before, same⟩ := Invalidation.still_of_mem still inside
    rw [isUncounted_of_isStill same, isUncounted_of_tag (tags inv before)]
  refine ⟨still, ?_, fun inv inside uncounted => ?_, ending⟩
  · rwa [countedStates_of_counted counted]
  · rw [counted inv inside] at uncounted
    cases uncounted

theorem settleTags_accounts {l l₁ : Ledger ε} (tags : ∀ inv ∈ batch, inv.kind = .tag)
    (unsettled : ∀ inv ∈ batch, inv.isTerminal = false)
    (admitted : l.tally.Gains (batch.flatMap fun inv => if isSendable inv then [] else [.failed])
      l₁.tally) (results : Fanout.Results Nat) {groups : List (List Invalidation)}
    (all : groups.flatten = (batch.map admitTag).filter isSendable) :
    Accounts pace l batch (((settleTags groups results (batch.map admitTag) l₁).1, .done),
      (settleTags groups results (batch.map admitTag) l₁).2) := by
  have length : (groupStates groups results).length = batch.countP isSendable := by
    rw [length_groupStates, all, ← List.countP_eq_length_filter, List.countP_map]
    simp only [Function.comp_def, isSendable_admitTag]
  have states := advanceEach_admitTag_perm unsettled length
    fun _ => isTerminal_of_mem_groupStates
  obtain ⟨settled, -, gains⟩ := settleTags_tallies groups results (batch.map admitTag) l₁
  refine accounts_of_tags tags ?_ ?_ (.inl ⟨rfl, fun inv inside => ?_⟩)
  · rw [settled]
    exact Invalidation.still_trans (forall₂_admitTag batch)
      (Invalidation.advanceEach_still isSendable _ _)
  · rw [settled]
    exact (admitted.trans gains).perm states.symm
  · rw [settled] at inside
    have among := states.mem_iff.mp (List.mem_map_of_mem (f := (·.state)) inside)
    cases List.mem_append.mp among with
    | inl rejected =>
        obtain ⟨_, -, failed⟩ := List.mem_flatMap.mp rejected
        split at failed
        · cases failed
        · rw [Invalidation.isTerminal, List.mem_singleton.mp failed]
          rfl
    | inr given => exact isTerminal_of_mem_groupStates given

theorem banGroups_accounts {l l₁ : Ledger ε} {salt : String}
    (tags : ∀ inv ∈ batch, inv.kind = .tag) (unsettled : ∀ inv ∈ batch, inv.isTerminal = false)
    (admitted : l.tally.Gains (batch.flatMap fun inv => if isSendable inv then [] else [.failed])
      l₁.tally) {groups : List (List Invalidation)}
    (all : groups.flatten = (batch.map admitTag).filter isSendable) :
    Accounts pace l batch (banGroups s pace salt groups (batch.map admitTag) l₁) := by
  simp only [banGroups, bind_apply]
  generalize asked : (Ledger.ask s.siteIdentifier (Ledger.ask s.edgeAddresses l₁).2).2 = l₂
  have kept : l₂.tally = l₁.tally := by rw [← asked]; rfl
  rw [← kept] at admitted
  generalize tagRequests _ _ _ = requests
  obtain ⟨gains, ended⟩ := fanOut_gains s pace.concurrency Nat.repr requests l₂
  have admitted := admitted.trans gains
  rw [List.append_nil] at admitted
  cases ended with
  | inl found =>
      obtain ⟨results, done⟩ := found
      rw [done]
      exact settleTags_accounts tags unsettled admitted results all
  | inr found =>
      obtain ⟨beyond, refused⟩ := found
      rw [refused]
      refine accounts_of_tags tags (forall₂_admitTag batch) ?_ (.inr ⟨beyond, rfl⟩)
      exact admitted.congr fun _ closed => count_map_admitTag unsettled closed

theorem purgeTags_accounts {l : Ledger ε} (tags : ∀ inv ∈ batch, inv.kind = .tag)
    (unsettled : ∀ inv ∈ batch, inv.isTerminal = false) :
    Accounts pace l batch (purgeTags s pace batch l) := by
  obtain ⟨admitted, -, gains⟩ := admitTags_tallies batch l
  simp only [purgeTags, bind_apply, admitted]
  generalize asked : (Ledger.ask s.siteIdentifier (admitTags batch l).2).2 = l₁
  have kept : l₁.tally = (admitTags batch l).2.tally := by rw [← asked]; rfl
  rw [← kept] at gains
  cases none : (groupsOf pace.groupSize ((batch.map admitTag).filter isSendable)).isEmpty with
  | false => exact banGroups_accounts tags unsettled gains (flatten_groupsOf _ _)
  | true =>
      rw [List.isEmpty_iff, groupsOf_eq_nil_iff, List.filter_eq_nil_iff] at none
      refine accounts_of_tags tags (forall₂_admitTag batch) ?_ (.inl ⟨rfl, fun inv' inside => ?_⟩)
      · exact gains.congr fun _ closed => count_map_admitTag unsettled closed
      · have rejected := Bool.eq_false_iff.mpr (none inv' inside)
        obtain ⟨inv, among, rfl⟩ := List.mem_map.mp inside
        rw [isSendable_admitTag] at rejected
        rw [admitTag_of_not_isSendable rejected, Invalidation.isTerminal, Invalidation.fail,
          Invalidation.advance, State.advance_failed (unsettled inv among)]
        rfl

end Tags

section Pages
variable {s : Surroundings ε} {pace : Pace} {batch : List Invalidation}

theorem countedStates_eq_flatMap (invs : List Invalidation) :
    countedStates invs = invs.flatMap fun inv => if isUncounted inv then [] else [inv.state] := by
  induction invs with
  | nil => rfl
  | cons inv rest ih =>
      rw [List.flatMap_cons, ← ih, countedStates, List.filter_cons]
      cases isUncounted inv <;> rfl

theorem isUncounted_of_page {inv : Invalidation}
    (page : inv.kind = .url ∨ inv.kind = .wildcardUrl) :
    isUncounted inv = !isRoutable inv.expression := by
  rcases page with kind | kind <;> rw [isUncounted, kind]

theorem admitPage_accounts {l l₁ : Ledger ε}
    (pages : ∀ inv ∈ batch, inv.kind = .url ∨ inv.kind = .wildcardUrl)
    (unsettled : ∀ inv ∈ batch, inv.isTerminal = false) (kept : l.tally.Gains [] l₁.tally)
    (beyond : Fanout.maxConcurrency < pace.concurrency) :
    Accounts pace l batch ((batch.map admitPage, .panicked Fanout.tooManyPermits), l₁) := by
  have still : ∀ inv : Invalidation, inv.IsStill (admitPage inv) := by
    intro inv
    rw [admitPage]
    split <;> exact inv.isStill_advance _
  refine ⟨?_, ?_, fun inv' inside uncounted => ?_, .inr ⟨beyond, rfl⟩⟩
  · rw [List.forall₂_map_right_iff]
    exact List.forall₂_same.mpr fun inv _ => still inv
  · refine kept.congr fun state closed => (List.count_eq_zero.mpr fun inside => ?_).symm
    rw [countedStates_eq_flatMap, List.flatMap_map] at inside
    obtain ⟨inv, among, inside⟩ := List.mem_flatMap.mp inside
    rw [isUncounted_of_isStill (still inv), isUncounted_of_page (pages inv among)] at inside
    cases h : isRoutable inv.expression with
    | false => simp [h] at inside
    | true =>
        rw [h, Bool.not_true, if_neg Bool.false_ne_true, List.mem_singleton] at inside
        have pending := isTerminal_admitPage (unsettled inv among)
        rw [Invalidation.isTerminal, ← inside, closed, h] at pending
        cases pending
  · obtain ⟨inv, among, rfl⟩ := List.mem_map.mp inside
    rw [isUncounted_of_isStill (still inv), isUncounted_of_page (pages inv among),
      Bool.not_eq_true'] at uncounted
    rw [admitPage_of_not_isRoutable uncounted]
    exact State.advance_failed (unsettled inv among)

theorem settlePages_accounts {l l₁ : Ledger ε}
    (pages : ∀ inv ∈ batch, inv.kind = .url ∨ inv.kind = .wildcardUrl)
    (unsettled : ∀ inv ∈ batch, inv.isTerminal = false) (kept : l.tally.Gains [] l₁.tally)
    (results : Fanout.Results Uuid) :
    Accounts pace l batch (((settlePages results (batch.map admitPage) l₁).1, .done),
      (settlePages results (batch.map admitPage) l₁).2) := by
  obtain ⟨settled, -, gains⟩ := settlePages_tallies results (batch.map admitPage) l₁
  have outcome : ∀ inv ∈ batch, settlePage results (admitPage inv) =
      { inv with state := .ofSuccess (isRoutable inv.expression && results.succeeded inv.id) } := by
    intro inv inside
    rw [settlePage_admitPage (unsettled inv inside), Invalidation.settle, Invalidation.advance,
      State.advance_ofSuccess (unsettled inv inside)]
  have uncountable : ∀ inv ∈ batch, ∀ state,
      isUncounted { inv with state } = !isRoutable inv.expression :=
    fun inv inside _ => isUncounted_of_page (pages inv inside)
  rw [List.map_map, List.map_congr_left (f := _ ∘ _) outcome] at settled
  rw [List.flatMap_map] at gains
  refine ⟨?_, ?_, fun inv' inside uncounted => ?_, .inl ⟨rfl, fun inv' inside => ?_⟩⟩
  · rw [settled, List.forall₂_map_right_iff]
    exact List.forall₂_same.mpr fun inv _ => rfl
  · have all := kept.trans gains
    rw [List.nil_append] at all
    rw [settled, countedStates_eq_flatMap, List.flatMap_map]
    refine all.perm (.of_eq (List.flatMap_congr fun inv inside => ?_))
    rw [isTerminal_admitPage (unsettled inv inside), admitPage_id, uncountable inv inside]
    cases isRoutable inv.expression <;> rfl
  · rw [settled] at inside
    obtain ⟨inv, among, rfl⟩ := List.mem_map.mp inside
    rw [uncountable inv among, Bool.not_eq_true'] at uncounted
    rw [uncounted]
    rfl
  · rw [settled] at inside
    obtain ⟨inv, -, rfl⟩ := List.mem_map.mp inside
    exact State.isTerminal_ofSuccess _

theorem purgePages_accounts {l : Ledger ε} (m : PageMethod)
    (pages : ∀ inv ∈ batch, inv.kind = .url ∨ inv.kind = .wildcardUrl)
    (unsettled : ∀ inv ∈ batch, inv.isTerminal = false) :
    Accounts pace l batch (purgePages s pace m batch l) := by
  simp only [purgePages, bind_apply]
  generalize asked : (Ledger.ask s.siteIdentifier (Ledger.ask s.edgeAddresses l).2).2 = l₁
  have kept : l₁.tally = l.tally := by rw [← asked]; rfl
  generalize pageRequests _ _ _ _ = requests
  obtain ⟨gains, ended⟩ := fanOut_gains s pace.concurrency Uuid.toText requests l₁
  rw [kept] at gains
  cases ended with
  | inl found =>
      obtain ⟨results, done⟩ := found
      rw [done]
      exact settlePages_accounts pages unsettled gains results
  | inr found =>
      obtain ⟨beyond, refused⟩ := found
      rw [refused]
      exact admitPage_accounts pages unsettled gains beyond

end Pages

section Site
variable {s : Surroundings ε} {pace : Pace} {batch : List Invalidation}

theorem purgeSite_accounts {l : Ledger ε} (whole : ∀ inv ∈ batch, inv.kind = .everything)
    (unsettled : ∀ inv ∈ batch, inv.isTerminal = false) :
    Accounts pace l batch (purgeSite s batch l) := by
  simp only [purgeSite, bind_apply]
  generalize (Ledger.ask s.edgeAddresses l).1 = addresses
  generalize asked : Ledger.ask s.siteIdentifier (Ledger.ask s.edgeAddresses l).2 = answer
  have kept : answer.2.tally = l.tally := by rw [← asked]; rfl
  have gains := purgeSiteAt_all_gains s answer.1 addresses answer.2
  rw [kept] at gains
  generalize addresses.mapM (purgeSiteAt s answer.1) answer.2 = ended at gains
  generalize (!addresses.isEmpty && ended.1.all id) = success
  have outcome : ∀ inv ∈ batch, inv.process.settle success =
      { inv with state := .ofSuccess success } := by
    intro inv inside
    rw [Invalidation.settle_process (unsettled inv inside), Invalidation.settle,
      Invalidation.advance, State.advance_ofSuccess (unsettled inv inside)]
  have settled : (batch.map Invalidation.process).map (Invalidation.settle success) =
      batch.map fun inv => { inv with state := .ofSuccess success } := by
    rw [List.map_map]
    exact List.map_congr_left outcome
  have counted : ∀ inv ∈ batch,
      isUncounted { inv with state := .ofSuccess success } = false := by
    intro inv inside
    rw [isUncounted, whole inv inside]
  have answered : Accounts pace l batch
      ((batch.map fun inv => { inv with state := .ofSuccess success }, .done),
        (Ledger.count success batch.length ended.2).2) := by
    refine ⟨?_, ?_, fun inv' inside uncounted => ?_, .inl ⟨rfl, fun inv' inside => ?_⟩⟩
    · rw [List.forall₂_map_right_iff]
      exact List.forall₂_same.mpr fun inv _ => rfl
    · rw [countedStates_of_counted (List.forall_mem_map.mpr counted), List.map_map]
      refine (gains.trans (Tally.outcome_gains _ success batch.length)).perm (.of_eq ?_)
      exact List.map_const'.symm
    · obtain ⟨inv, among, rfl⟩ := List.mem_map.mp inside
      rw [counted inv among] at uncounted
      cases uncounted
    · obtain ⟨inv, -, rfl⟩ := List.mem_map.mp inside
      exact State.isTerminal_ofSuccess success
  rw [← settled] at answered
  rw [List.length_map]
  exact answered

end Site

theorem handle_accounts (s : Surroundings ε) (pace : Pace) (l : Ledger ε) {kind : Kind}
    {batch : List Invalidation} (own : ∀ inv ∈ batch, inv.kind = kind)
    (unsettled : ∀ inv ∈ batch, inv.isTerminal = false) :
    Accounts pace l batch (handle s pace kind batch l) := by
  cases kind with
  | tag => exact purgeTags_accounts own unsettled
  | url => exact purgePages_accounts exact (fun inv inside => .inl (own inv inside)) unsettled
  | wildcardUrl =>
      exact purgePages_accounts pattern (fun inv inside => .inr (own inv inside)) unsettled
  | everything => exact purgeSite_accounts own unsettled

end CachePurge.Fleet
