import CachePurge.Proofs.Fleet.Accounting
import CachePurge.Proofs.Fleet.Handlers
import CachePurge.Proofs.Fleet.Reading

/-!
What tries leave in the ledger: the requests among them that could be built, as many requests in the
counter as there are tries, and each try that was not acknowledged in the counter of failures and in
the trace. Up to the limit of concurrency every handler leaves that of just what is planned for its
batch by what the platform tells it. Beyond the limit a handler that fans something out tries
nothing, and breaks off.
-/

namespace CachePurge.Fleet

variable {ε : Type}

section FanOut
variable (s : Surroundings ε)

/-- A request that could be built leaves one event in the trace, and no other. -/
theorem exchange_trace (request : Except Fault Http.Request) (l : Ledger ε) :
    ∃ seen, (exchange s request l).2.trace =
      l.trace ++ request.toOption.toList.map fun asked => Event.request asked seen := by
  cases request with
  | error fault => exact ⟨none, (List.append_nil _).symm⟩
  | ok request =>
      have sent : ∃ seen,
          (Ledger.send s true request l).2.trace = l.trace ++ [Event.request request seen] := by
        rw [Ledger.send]
        cases Http.prepare true request with
        | error fault => exact ⟨none, rfl⟩
        | ok message => exact ⟨_, rfl⟩
      simp only [exchange, bind_apply]
      generalize Ledger.send s true request l = answer at sent
      cases answer.1.1 with
      | error fault => exact sent
      | ok response =>
          cases h : Http.isSuccess response.status <;> simp only [h] <;> exact sent

theorem exchange_requests (request : Except Fault Http.Request) (l : Ledger ε) :
    (exchange s request l).2.requests = l.requests ++ request.toOption.toList := by
  obtain ⟨seen, trace⟩ := exchange_trace s request l
  rw [Ledger.requests, trace, List.filterMap_append]
  cases request.toOption <;> rfl

/-- Whoever makes a request leaves it to others to report how it failed. -/
theorem exchange_failures (request : Except Fault Http.Request) (l : Ledger ε) :
    (exchange s request l).2.failures = l.failures := by
  obtain ⟨seen, trace⟩ := exchange_trace s request l
  rw [Ledger.failures, trace, List.countP_append]
  cases request.toOption <;> rfl

variable {κ : Type}

theorem attempts_requests (requests : List (κ × Except Fault Http.Request)) (l : Ledger ε) :
    (requests.mapM (fun x => attempt s x.1 x.2) l).2.requests =
      l.requests ++ requests.filterMap (·.2.toOption) := by
  induction requests generalizing l with
  | nil => exact (List.append_nil _).symm
  | cons x rest ih =>
      rw [mapM_cons_apply, ih, attempt_apply, exchange_requests, List.append_assoc,
        List.filterMap_cons]
      cases x.2.toOption <;> rfl

theorem attempts_failures (requests : List (κ × Except Fault Http.Request)) (l : Ledger ε) :
    (requests.mapM (fun x => attempt s x.1 x.2) l).2.failures = l.failures := by
  induction requests generalizing l with
  | nil => rfl
  | cons x rest ih => rw [mapM_cons_apply, ih, attempt_apply, exchange_failures]

theorem length_attempts (requests : List (κ × Except Fault Http.Request)) (l : Ledger ε) :
    (requests.mapM (fun x => attempt s x.1 x.2) l).1.length = requests.length := by
  induction requests generalizing l with
  | nil => rfl
  | cons x rest ih => simp only [mapM_cons_apply, List.length_cons, ih]

section Within
variable {concurrency : Nat} (within : concurrency ≤ Fanout.maxConcurrency) (label : κ → String)
  (requests : List (κ × Except Fault Http.Request)) (l : Ledger ε)
include within

/-- A fan-out gives the client every request that could be built, in their order, and counts every
attempt. -/
theorem fanOut_requests :
    (fanOut s concurrency label requests l).2.requests =
        l.requests ++ requests.filterMap (·.2.toOption) ∧
      (fanOut s concurrency label requests l).2.tally.requestsSent =
        l.tally.requestsSent + .ofNat requests.length := by
  rw [fanOut_apply s within]
  have silent (faults : List (κ × Fault)) :
      (faults.map fun x => Event.failed (label x.1) x.2).filterMap Event.request? = [] := by
    rw [List.filterMap_map]
    exact List.filterMap_eq_nil_iff.mpr fun _ _ => rfl
  constructor
  · simp only [Ledger.requests, List.filterMap_append, silent, List.append_nil]
    exact attempts_requests s requests l
  · rw [Fanout.count_requestsSent, (Fanout.byEnd_perm (Fanout.length_spans _ _)).length_eq,
      length_attempts, attempts_tally]

/-- A fan-out counts and reports every attempt that did not succeed, once each. -/
theorem fanOut_failures :
    let attempted := (requests.mapM (fun x => attempt s x.1 x.2) l).1
    (fanOut s concurrency label requests l).2.tally.requestsFailed =
        l.tally.requestsFailed + .ofNat (Fanout.failureCount attempted) ∧
      (fanOut s concurrency label requests l).2.failures =
        l.failures + Fanout.failureCount attempted := by
  intro attempted
  rw [fanOut_apply s within]
  have ended : Fanout.failureCount (Fanout.byEnd (Fanout.spans concurrency attempted) attempted) =
      Fanout.failureCount attempted :=
    (Fanout.byEnd_perm (Fanout.length_spans _ _)).countP_eq _
  constructor
  · rw [Fanout.count_requestsFailed, ended, attempts_tally]
  · have reported (faults : List (κ × Fault)) :
        (faults.map fun x => Event.failed (label x.1) x.2).countP Event.isFailure =
          faults.length := by
      rw [List.countP_map]
      exact List.countP_eq_length.mpr fun _ _ => rfl
    have before := attempts_failures s requests l
    rw [Ledger.failures] at before
    simp only [Ledger.failures, List.countP_append, reported, Fanout.length_failures]
    exact congrArg₂ (· + ·) before ended

end Within
end FanOut

/-- Between two ledgers some tries were made, and nothing else was sent. -/
structure Runs (s : Surroundings ε) (l l' : Ledger ε) (tries : List Try) : Prop where
  undergone : s.Undergoes l.outside tries l'.outside
  requests : l'.requests = l.requests ++ tries.filterMap (·.request.toOption)
  counted : l'.tally.requestsSent = l.tally.requestsSent + .ofNat tries.length

/-- How many of some tries were not acknowledged. -/
def failedTries (tries : List Try) : Nat := tries.countP fun t => !t.isAcknowledged

/-- Between two ledgers some tries were made, nothing else was sent, and those of them that were not
acknowledged, and nothing else, were counted and reported as failures. -/
structure Charges (s : Surroundings ε) (l l' : Ledger ε) (tries : List Try) : Prop extends
    Runs s l l' tries where
  failed : l'.tally.requestsFailed = l.tally.requestsFailed + .ofNat (failedTries tries)
  reported : l'.failures = l.failures + failedTries tries

section Charges
variable {s : Surroundings ε} {l l' l'' : Ledger ε}

theorem Charges.none (undergone : s.Undergoes l.outside [] l'.outside)
    (requests : l'.requests = l.requests)
    (counted : l'.tally.requestsSent = l.tally.requestsSent)
    (failed : l'.tally.requestsFailed = l.tally.requestsFailed)
    (reported : l'.failures = l.failures) : Charges s l l' [] where
  undergone := undergone
  requests := requests.trans (List.append_nil _).symm
  counted := counted.trans (UInt64.add_zero _).symm
  failed := failed.trans (UInt64.add_zero _).symm
  reported := reported

theorem Charges.refl (s : Surroundings ε) (l : Ledger ε) : Charges s l l [] :=
  .none (.rest _) rfl rfl rfl rfl

theorem Charges.trans {tries more : List Try} (first : Charges s l l' tries)
    (second : Charges s l' l'' more) : Charges s l l'' (tries ++ more) where
  undergone := first.undergone.trans second.undergone
  requests := by
    rw [second.requests, first.requests, List.filterMap_append, List.append_assoc]
  counted := by
    rw [second.counted, first.counted, List.length_append, UInt64.ofNat_add, UInt64.add_assoc]
  failed := by
    rw [second.failed, first.failed, failedTries, failedTries, failedTries, List.countP_append,
      UInt64.ofNat_add, UInt64.add_assoc]
  reported := by
    rw [second.reported, first.reported, failedTries, failedTries, failedTries,
      List.countP_append, Nat.add_assoc]

/-- Nothing was tried any more. -/
theorem Charges.quiet {tries : List Try} (first : Charges s l l' tries)
    (second : Charges s l' l'' []) : Charges s l l'' tries := by
  have all := first.trans second
  rwa [List.append_nil] at all

theorem count_charges (success : Bool) (n : Nat) :
    Charges s l (Ledger.count success n l).2 [] := by
  refine .none (.rest _) rfl ?_ ?_ rfl <;> cases success <;> rfl

theorem mapM_charges {α β : Type} {f : α → StateM (Ledger ε) β}
    (each : ∀ x l, Charges s l (f x l).2 []) (xs : List α) (l : Ledger ε) :
    Charges s l (xs.mapM f l).2 [] := by
  induction xs generalizing l with
  | nil => exact .refl s _
  | cons x rest ih =>
      rw [mapM_cons_apply]
      exact (each x l).trans (ih _)

theorem note_charges {event : Event} (silent : event.request? = none)
    (fine : event.isFailure = false) : Charges s l (Ledger.note event l).2 [] := by
  refine .none (.rest _) ?_ rfl rfl ?_
  · rw [Ledger.requests_note, silent]
    exact List.append_nil _
  · rw [Ledger.failures_note, fine]
    rfl

theorem admitTags_charges (batch : List Invalidation) :
    Charges s l (admitTags batch l).2 [] := by
  refine mapM_charges (fun inv l => ?_) batch l
  cases isSendable inv with
  | true => exact .refl s _
  | false => exact count_charges false 1

theorem settleTags_charges (groups : List (List Invalidation)) (results : Fanout.Results Nat)
    (batch : List Invalidation) : Charges s l (settleTags groups results batch l).2 [] := by
  have counted (settled : List (Nat × Bool)) (l : Ledger ε) :
      Charges s l ((settled.forM fun x => Ledger.count x.2 x.1) l).2 [] := by
    induction settled generalizing l with
    | nil => exact .refl s _
    | cons x rest ih => exact (count_charges x.2 x.1).trans (ih (Ledger.count x.2 x.1 l).2)
  exact counted _ l

theorem settlePages_charges (results : Fanout.Results Uuid) (batch : List Invalidation) :
    Charges s l (settlePages results batch l).2 [] := by
  refine mapM_charges (fun inv l => ?_) batch l
  cases inv.isTerminal with
  | true => exact .refl s _
  | false => exact count_charges (results.succeeded inv.id) 1

theorem askAddresses_charges : Charges s l (Ledger.ask s.edgeAddresses l).2 [] :=
  .none (.askAddresses (.rest _)) rfl rfl rfl rfl

theorem askSite_charges : Charges s l (Ledger.ask s.siteIdentifier l).2 [] :=
  .none (.askSite (.rest _)) rfl rfl rfl rfl

theorem ask_charges :
    Charges s l (Ledger.ask s.siteIdentifier (Ledger.ask s.edgeAddresses l).2).2 [] :=
  askAddresses_charges.trans askSite_charges

theorem fanOut_charges {κ : Type} {concurrency : Nat}
    (within : concurrency ≤ Fanout.maxConcurrency) (label : κ → String)
    (keyed : List (κ × Errand)) :
    ∃ (tries : List Try) (results : Fanout.Results κ) (l' : Ledger ε),
      fanOut s concurrency label (keyed.map fun x => (x.1, x.2.request)) l = (.ok results, l') ∧
      tries.map (·.toErrand) = keyed.map (·.2) ∧ Charges s l l' tries := by
  obtain ⟨tried, planned, undergone, outcomes⟩ := attempts_tries s keyed l
  have applied := fanOut_apply s within label (keyed.map fun x => (x.1, x.2.request)) l
  have sent := fanOut_requests s within label (keyed.map fun x => (x.1, x.2.request)) l
  obtain ⟨failed, reported⟩ :=
    fanOut_failures s within label (keyed.map fun x => (x.1, x.2.request)) l
  rw [List.mapM_map] at applied failed reported
  have unacknowledged : Fanout.failureCount
      (keyed.mapM (fun x => attempt s x.1 x.2.request) l).1 = failedTries (tried.map (·.2)) := by
    have same := congrArg (List.countP fun x : κ × Bool => !x.2) outcomes
    rw [List.countP_map, List.countP_map] at same
    rw [failedTries, List.countP_map]
    exact same
  simp only [Function.comp_def] at failed reported
  rw [unacknowledged, applied] at failed reported
  rw [applied] at sent
  refine ⟨tried.map (·.2), _, _, applied, ?_, ⟨undergone, ?_, ?_⟩, failed, reported⟩
  · rw [← planned, List.map_map, List.map_map]
    rfl
  · rw [sent.1, ← planned]
    simp only [List.filterMap_map, Function.comp_def]
  · rw [sent.2, ← planned]
    simp only [List.length_map]

end Charges

/-- A program was started when the ledger was `l`: it came to its end, and tried what was planned.
-/
def CarriesOut {α : Type} (s : Surroundings ε) (l : Ledger ε) (plan : List Errand)
    (run : (α × Ending) × Ledger ε) : Prop :=
  run.1.2 = .done ∧ ∃ tries : List Try, tries.map (·.toErrand) = plan ∧ Charges s l run.2 tries

section Tags
variable {s : Surroundings ε} {pace : Pace} {l : Ledger ε} {addresses : List String} {site : String}

theorem banGroups_charges (within : pace.concurrency ≤ Fanout.maxConcurrency) (salt : String)
    (groups : List (List Placed)) (batch : List Invalidation) :
    let addresses := (Ledger.ask s.edgeAddresses l).1
    let site := (Ledger.ask s.siteIdentifier (Ledger.ask s.edgeAddresses l).2).1
    CarriesOut s l (groups.flatMap fun group => addresses.map (saltedErrand salt site group))
      (banGroups s pace salt (groups.map (List.map fun x => admitTag x.1)) batch l) := by
  intro addresses site
  simp only [banGroups, bind_apply]
  have before : Charges s l
      (Ledger.ask s.siteIdentifier (Ledger.ask s.edgeAddresses l).2).2 [] := ask_charges
  generalize (Ledger.ask s.siteIdentifier (Ledger.ask s.edgeAddresses l).2).2 = l₁ at before
  rw [← saltedErrands_requests groups _ fun x => admitTag_expression x.1]
  obtain ⟨tries, results, l₂, run, planned, sent⟩ :=
    fanOut_charges (s := s) (l := l₁) within Nat.repr (saltedErrands salt site addresses groups)
  rw [run]
  refine ⟨rfl, tries, planned.trans (saltedErrands_errands groups), ?_⟩
  exact (before.trans sent).quiet (settleTags_charges _ results batch)

theorem banGroups_of_lt (beyond : Fanout.maxConcurrency < pace.concurrency) (salt : String)
    (groups : List (List Invalidation)) (batch : List Invalidation) :
    (banGroups s pace salt groups batch l).1.2 = .panicked Fanout.tooManyPermits ∧
      Charges s l (banGroups s pace salt groups batch l).2 [] := by
  simp only [banGroups, bind_apply, fanOut_of_lt s beyond]
  exact ⟨rfl, ask_charges⟩

/-- There are groups just if some tag can be sent. -/
theorem isEmpty_admittedGroups (size : Nat) (batch : List Invalidation) :
    (groupsOf size ((batch.map admitTag).filter isSendable)).isEmpty = !batch.any isSendable := by
  rw [Bool.eq_iff_iff, List.isEmpty_iff, groupsOf_eq_nil_iff, List.filter_eq_nil_iff]
  simp [isSendable_admitTag]

/-- The limit does not matter if no tag can be sent. -/
theorem purgeTags_reads (placed : List Placed)
    (fit : pace.concurrency ≤ Fanout.maxConcurrency ∨ ∀ x ∈ placed, isSendable x.1 = false) :
    CarriesOut s l ((s.reading .tag l.outside).1.errands pace .tag placed)
      (purgeTags s pace (placed.map (·.1)) l) := by
  obtain ⟨admitted, outside, -⟩ := admitTags_tallies (placed.map (·.1)) l
  have before : Charges s l
      (Ledger.ask s.siteIdentifier (admitTags (placed.map (·.1)) l).2).2 [] :=
    (admitTags_charges _).trans askSite_charges
  rw [List.map_map] at admitted
  rw [← outside]
  simp only [purgeTags, bind_apply, admitted, Function.comp_def, admittedGroups_eq]
  by_cases none : tagGroups pace placed = []
  · simp only [none, List.map_nil, List.isEmpty_nil, if_true]
    exact ⟨rfl, [], by rw [Reading.errands, none]; rfl, before⟩
  · have some_ :
        ((tagGroups pace placed).map (List.map fun x => admitTag x.1)).isEmpty = false := by
      simp [none]
    have within : pace.concurrency ≤ Fanout.maxConcurrency := by
      refine fit.resolve_right fun unfit => none (groupsOf_eq_nil_iff.mpr ?_)
      exact List.filter_eq_nil_iff.mpr fun x inside => by simp [unfit x inside]
    simp only [some_, Bool.false_eq_true, if_false]
    obtain ⟨done, tries, planned, sent⟩ := banGroups_charges
      (l := (Ledger.ask s.siteIdentifier (admitTags (placed.map (·.1)) l).2).2) within
      (Ledger.ask s.siteIdentifier (admitTags (placed.map (·.1)) l).2).1 (tagGroups pace placed)
      (placed.map fun x => admitTag x.1)
    exact ⟨done, tries, planned, before.trans sent⟩

theorem purgeTags_charges (steady : s.Steady l.outside addresses site) (placed : List Placed)
    (fit : pace.concurrency ≤ Fanout.maxConcurrency ∨ ∀ x ∈ placed, isSendable x.1 = false) :
    CarriesOut s l (batchErrands pace site addresses .tag placed)
      (purgeTags s pace (placed.map (·.1)) l) := by
  have carried := purgeTags_reads (s := s) (l := l) placed fit
  rwa [steady.reading, Reading.errands_snapshot] at carried

theorem purgeTags_of_lt (beyond : Fanout.maxConcurrency < pace.concurrency)
    (batch : List Invalidation) :
    (purgeTags s pace batch l).1.2 =
        (if batch.any isSendable then .panicked Fanout.tooManyPermits else .done) ∧
      Charges s l (purgeTags s pace batch l).2 [] := by
  have admitted := (admitTags_tallies batch l).1
  have before : Charges s l (Ledger.ask s.siteIdentifier (admitTags batch l).2).2 [] :=
    (admitTags_charges batch).trans askSite_charges
  simp only [purgeTags, bind_apply, admitted, isEmpty_admittedGroups]
  cases batch.any isSendable with
  | false => exact ⟨rfl, before⟩
  | true =>
      obtain ⟨panicked, sent⟩ := banGroups_of_lt (s := s)
        (l := (Ledger.ask s.siteIdentifier (admitTags batch l).2).2) beyond
        (Ledger.ask s.siteIdentifier (admitTags batch l).2).1
        (groupsOf pace.groupSize ((batch.map admitTag).filter isSendable)) (batch.map admitTag)
      exact ⟨panicked, before.trans sent⟩

end Tags

section Pages
variable {s : Surroundings ε} {pace : Pace} {l : Ledger ε}

theorem purgePages_charges (within : pace.concurrency ≤ Fanout.maxConcurrency) (m : PageMethod)
    (kind : Kind) (placed : List Placed) :
    let addresses := (Ledger.ask s.edgeAddresses l).1
    let site := (Ledger.ask s.siteIdentifier (Ledger.ask s.edgeAddresses l).2).1
    CarriesOut s l (pageErrands m kind site addresses placed)
      (purgePages s pace m (placed.map (·.1)) l) := by
  intro addresses site
  simp only [purgePages, bind_apply]
  have before : Charges s l
      (Ledger.ask s.siteIdentifier (Ledger.ask s.edgeAddresses l).2).2 [] := ask_charges
  generalize (Ledger.ask s.siteIdentifier (Ledger.ask s.edgeAddresses l).2).2 = l₁ at before
  rw [← keyedErrands_pages m kind]
  obtain ⟨tries, results, l₂, run, planned, sent⟩ :=
    fanOut_charges (s := s) (l := l₁) within Uuid.toText
      (keyedErrands (fun x : Placed => x.1.id) (pageErrand m kind site) addresses
        (placed.filter fun x => isRoutable x.1.expression))
  rw [run]
  refine ⟨rfl, tries, planned.trans (keyedErrands_errands _ _ _), ?_⟩
  exact (before.trans sent).quiet (settlePages_charges results _)

theorem purgePages_of_lt (beyond : Fanout.maxConcurrency < pace.concurrency) (m : PageMethod)
    (batch : List Invalidation) :
    (purgePages s pace m batch l).1.2 = .panicked Fanout.tooManyPermits ∧
      Charges s l (purgePages s pace m batch l).2 [] := by
  simp only [purgePages, bind_apply, fanOut_of_lt s beyond]
  exact ⟨rfl, ask_charges⟩

end Pages

section Site
variable {s : Surroundings ε} {l : Ledger ε}

/-- The site's own request is counted when it is over, and reported if it failed. -/
theorem purgeSiteAt_counts (s : Surroundings ε) (site address : String) (l : Ledger ε) :
    let run := purgeSiteAt s site address l
    run.2.requests = l.requests ++ (siteRequest site address).toOption.toList ∧
      run.2.tally.requestsSent = l.tally.requestsSent + 1 ∧
      run.2.tally.requestsFailed = l.tally.requestsFailed + .ofNat (if run.1 then 0 else 1) ∧
      run.2.failures = l.failures + if run.1 then 0 else 1 := by
  have sent := exchange_requests s (siteRequest site address) l
  have kept := exchange_tally s (siteRequest site address) l
  have silent := exchange_failures s (siteRequest site address) l
  generalize exchanged : exchange s (siteRequest site address) l = ended at sent kept silent
  simp only [purgeSiteAt, bind_apply, exchanged]
  rw [← sent, ← kept, ← silent]
  have counted := Tally.request_failed ended.2.tally ended.1.2.isSuccess
    (Float.toBits ended.1.1.toFloat)
  cases h : ended.1.2.fault? with
  | none =>
      rw [Fanout.Outcome.isSuccess, h] at counted ⊢
      exact ⟨rfl, rfl, counted, rfl⟩
  | some fault =>
      rw [Fanout.Outcome.isSuccess, h] at counted ⊢
      refine ⟨?_, rfl, counted, Ledger.failures_note _ _⟩
      exact (Ledger.requests_note _ _).trans (List.append_nil _)

theorem purgeSiteAt_charges (s : Surroundings ε) (site address : String) (l : Ledger ε) :
    ∃ t : Try, t.toErrand = siteErrand site address ∧
      Charges s l (purgeSiteAt s site address l).2 [t] := by
  obtain ⟨t, errand, undergone, acknowledged⟩ := purgeSiteAt_apply s site address l
  obtain ⟨requests, counted, failed, reported⟩ := purgeSiteAt_counts s site address l
  have own : failedTries [t] = if (purgeSiteAt s site address l).1 then 0 else 1 := by
    rw [acknowledged]
    cases h : t.isAcknowledged <;> simp [failedTries, h]
  have request : t.request = siteRequest site address := congrArg Errand.request errand
  refine ⟨t, errand, ⟨undergone, ?_, counted⟩, ?_, ?_⟩
  · rw [requests, ← request]
    cases h : t.request <;> simp [h, Except.toOption]
  · rw [failed, own]
  · rw [reported, own]

theorem purgeSiteAt_all_charges (s : Surroundings ε) (site : String) (addresses : List String)
    (l : Ledger ε) :
    ∃ tries : List Try, tries.map (·.toErrand) = addresses.map (siteErrand site) ∧
      Charges s l (addresses.mapM (purgeSiteAt s site) l).2 tries := by
  induction addresses generalizing l with
  | nil => exact ⟨[], rfl, .refl s _⟩
  | cons address rest ih =>
      obtain ⟨t, errand, first⟩ := purgeSiteAt_charges s site address l
      obtain ⟨tries, planned, others⟩ := ih (purgeSiteAt s site address l).2
      refine ⟨t :: tries, by rw [List.map_cons, List.map_cons, errand, planned], ?_⟩
      rw [mapM_cons_apply]
      exact first.trans others

theorem purgeSite_charges (batch : List Invalidation) :
    let addresses := (Ledger.ask s.edgeAddresses l).1
    let site := (Ledger.ask s.siteIdentifier (Ledger.ask s.edgeAddresses l).2).1
    CarriesOut s l (addresses.map (siteErrand site)) (purgeSite s batch l) := by
  intro addresses site
  simp only [purgeSite, bind_apply]
  have before : Charges s l
      (Ledger.ask s.siteIdentifier (Ledger.ask s.edgeAddresses l).2).2 [] := ask_charges
  generalize (Ledger.ask s.siteIdentifier (Ledger.ask s.edgeAddresses l).2).2 = l₁ at before
  obtain ⟨tries, planned, sent⟩ := purgeSiteAt_all_charges s site addresses l₁
  refine ⟨rfl, tries, planned, ?_⟩
  exact (before.trans sent).quiet (count_charges _ _)

end Site

section Handlers
variable {s : Surroundings ε} {pace : Pace} {l : Ledger ε} {kind : Kind}

theorem charges_within {tries : List Try} {l' : Ledger ε}
    (sent : Charges s (Ledger.note (.enter kind) l).2 l' tries) :
    Charges s l (Ledger.note (.exit kind) l').2 tries := by
  have entered : Charges s l (Ledger.note (.enter kind) l).2 [] := note_charges rfl rfl
  exact (entered.trans sent).quiet (note_charges rfl rfl)

/-- Every handler carries out what is planned by what it is told when it starts. The limit does not
matter to a batch that nothing is fanned out for. -/
theorem handle_charges {batch : List Placed} (nonempty : batch ≠ [])
    (own : ∀ x ∈ batch, x.1.kind = kind)
    (fit : pace.concurrency ≤ Fanout.maxConcurrency ∨ ∀ x ∈ batch, fansOut x.1 = false) :
    CarriesOut s l ((s.reading kind l.outside).1.errands pace kind batch)
      (handle s pace kind (batch.map (·.1)) l) := by
  obtain ⟨first, inside⟩ := List.exists_mem_of_ne_nil batch nonempty
  have within_of_loud (loud : fansOut first.1 = true) :
      pace.concurrency ≤ Fanout.maxConcurrency :=
    fit.resolve_right fun quiet => Bool.false_ne_true ((quiet first inside).symm.trans loud)
  have kind_eq := own first inside
  cases kind with
  | tag =>
      refine purgeTags_reads batch (fit.imp_right fun quiet x among => ?_)
      have still := quiet x among
      rwa [fansOut, own x among] at still
  | url =>
      have within := within_of_loud (by rw [fansOut, kind_eq])
      exact purgePages_charges within exact .url batch
  | wildcardUrl =>
      have within := within_of_loud (by rw [fansOut, kind_eq])
      exact purgePages_charges within pattern .wildcardUrl batch
  | everything => exact purgeSite_charges _

theorem purger_handle_charges (pace : Pace) {batch : List Placed} (nonempty : batch ≠ [])
    (own : ∀ x ∈ batch, x.1.kind = kind)
    (fit : pace.concurrency ≤ Fanout.maxConcurrency ∨ ∀ x ∈ batch, fansOut x.1 = false) :
    CarriesOut s l ((s.reading kind l.outside).1.errands pace kind batch)
      ((purger s pace).handle kind (batch.map (·.1)) l) := by
  obtain ⟨done, tries, planned, sent⟩ :=
    handle_charges (s := s) (l := (Ledger.note (.enter kind) l).2) nonempty own fit
  exact ⟨done, tries, planned, charges_within sent⟩

/-- Beyond the limit a handler that fans nothing out tries nothing either, but that of the site. -/
theorem purger_handle_of_lt (beyond : Fanout.maxConcurrency < pace.concurrency)
    (some : kind ≠ .everything) {batch : List Invalidation} (nonempty : batch ≠ [])
    (own : ∀ inv ∈ batch, inv.kind = kind) :
    ((purger s pace).handle kind batch l).1.2 =
        (if batch.any fansOut then .panicked Fanout.tooManyPermits else .done) ∧
      Charges s l ((purger s pace).handle kind batch l).2 [] := by
  obtain ⟨first, inside⟩ := List.exists_mem_of_ne_nil batch nonempty
  have page (m : PageMethod) (loud : fansOut first = true) :
      (purgePages s pace m batch (Ledger.note (.enter kind) l).2).1.2 =
          (if batch.any fansOut then .panicked Fanout.tooManyPermits else .done) ∧
        Charges s l (Ledger.note (.exit kind)
          (purgePages s pace m batch (Ledger.note (.enter kind) l).2).2).2 [] := by
    obtain ⟨ending, sent⟩ :=
      purgePages_of_lt (s := s) (l := (Ledger.note (.enter kind) l).2) beyond m batch
    rw [if_pos (List.any_eq_true.mpr ⟨first, inside, loud⟩)]
    exact ⟨ending, charges_within sent⟩
  have kind_eq := own first inside
  cases kind with
  | tag =>
      obtain ⟨ending, sent⟩ :=
        purgeTags_of_lt (s := s) (l := (Ledger.note (.enter .tag) l).2) beyond batch
      rw [any_fansOut_of_tag own]
      exact ⟨ending, charges_within sent⟩
  | url => exact page exact (by rw [fansOut, kind_eq])
  | wildcardUrl => exact page pattern (by rw [fansOut, kind_eq])
  | everything => exact absurd rfl some

end Handlers
end CachePurge.Fleet
