import CachePurge.Proofs.Fleet.Charges
import CachePurge.Proofs.Fleet.Unanimity

/-!
How many requests a dispatch makes and how many of them it reports as failed. Each group of tags and
each page that can be asked for goes to every address, and the whole site does if it is to be purged
at all; the counters go by the tries, whatever became of them.
-/

namespace CachePurge.Fleet

variable {ε : Type}

/-- How many requests a list comes to at some addresses: one at each of them for every group of
tags, the last of which need not be full, for every page that can be asked for, and for the site. -/
def requestCount (pace : Pace) (addresses : Nat) (invs : List Invalidation) : Nat :=
  let size := max pace.groupSize 1
  let tags := invs.countP fun inv => inv.kind = .tag && isSendable inv
  let pages (kind : Kind) := invs.countP fun inv => inv.kind = kind && isRoutable inv.expression
  (tags + (size - 1)) / size * addresses + pages .url * addresses +
    pages .wildcardUrl * addresses + if invs.any (·.kind = .everything) then addresses else 0

theorem length_flatMap_addresses {β γ : Type} (things : List β) (addresses : List String)
    (f : β → String → γ) :
    (things.flatMap fun y => addresses.map (f y)).length = things.length * addresses.length := by
  simp only [List.length_flatMap, List.length_map, List.map_const', List.sum_replicate_nat]

theorem length_filter_ofKind (kind : Kind) (p : Invalidation → Bool) (invs : List Invalidation) :
    ((ofKind kind invs.zipIdx).filter fun x => p x.1).length =
      invs.countP fun inv => inv.kind = kind && p inv := by
  conv_rhs => rw [← List.zipIdx_map_fst 0 invs, List.countP_map, List.countP_eq_length_filter]
  rw [ofKind, List.filter_filter]
  simp only [Function.comp_def, Bool.and_comm]

theorem map_fst_ofKind (kind : Kind) (invs : List Invalidation) :
    (ofKind kind invs.zipIdx).map (·.1) = Invalidation.ofKind kind invs :=
  Invalidation.map_fst_filter_zipIdx kind invs

theorem isEmpty_ofKind (kind : Kind) (invs : List Invalidation) :
    (ofKind kind invs.zipIdx).isEmpty = !invs.any (·.kind = kind) := by
  rw [← List.isEmpty_map (f := fun x : Placed => x.1), map_fst_ofKind, Bool.eq_iff_iff,
    List.isEmpty_iff, Invalidation.ofKind, List.filter_eq_nil_iff]
  simp

theorem length_errands (pace : Pace) (site : String) (addresses : List String)
    (invs : List Invalidation) :
    (errands pace site addresses invs).length = requestCount pace addresses.length invs := by
  have tags : (batchErrands pace site addresses .tag (ofKind .tag invs.zipIdx)).length =
      (invs.countP (fun inv => inv.kind = .tag && isSendable inv) + (max pace.groupSize 1 - 1)) /
        max pace.groupSize 1 * addresses.length := by
    rw [batchErrands, length_flatMap_addresses, tagGroups, length_groupsOf, length_filter_ofKind]
  have pages (m : PageMethod) (kind : Kind) :
      (pageErrands m kind site addresses (ofKind kind invs.zipIdx)).length =
        invs.countP (fun inv => inv.kind = kind && isRoutable inv.expression) *
          addresses.length := by
    rw [pageErrands, length_flatMap_addresses,
      length_filter_ofKind kind fun inv => isRoutable inv.expression]
  have occurring (kind : Kind) (none : batchErrands pace site addresses kind [] = []) :
      (if (ofKind kind invs.zipIdx).isEmpty then []
        else batchErrands pace site addresses kind (ofKind kind invs.zipIdx)) =
          batchErrands pace site addresses kind (ofKind kind invs.zipIdx) := by
    split
    · next empty => rw [List.isEmpty_iff.mp empty, none]
    · rfl
  have whole : (if (ofKind .everything invs.zipIdx).isEmpty then []
        else batchErrands pace site addresses .everything (ofKind .everything invs.zipIdx)).length =
      if invs.any (·.kind = .everything) then addresses.length else 0 := by
    rw [isEmpty_ofKind]
    cases invs.any (·.kind = .everything)
    · rfl
    · exact List.length_map _
  rw [errands, errandsOf, Kind.all]
  simp only [List.flatMap_cons, List.flatMap_nil, List.append_nil, List.length_append]
  rw [whole, occurring .tag (by simp [batchErrands, tagGroups, groupsOf_nil]), occurring .url rfl,
    occurring .wildcardUrl rfl, tags]
  simp only [batchErrands, pages, requestCount, Nat.add_assoc]

section Dispatch
variable {s : Surroundings ε} {pace : Pace} {addresses : List String} {site : String}

/-- What was handled stays fit, since states do not matter to what is fanned out. -/
theorem fit_advanceKind {kind : Kind} {invs : List Invalidation} (states : List State)
    (fit : pace.concurrency ≤ Fanout.maxConcurrency ∨ ∀ inv ∈ invs, fansOut inv = false) :
    pace.concurrency ≤ Fanout.maxConcurrency ∨
      ∀ inv ∈ Invalidation.advanceKind kind invs states, fansOut inv = false := by
  refine fit.imp_right fun quiet inv inside => ?_
  obtain ⟨old, among, still⟩ := Invalidation.still_of_mem
    (Invalidation.advanceKind_still invs states kind) inside
  rw [fansOut_still still, quiet old among]

/-- A kind that was handled leaves the others in their places. -/
theorem errandsBy_advanceKind {kind : Kind} {rest : List Kind} (fresh : kind ∉ rest)
    (told : Kind → Reading) (invs : List Invalidation) (states : List State) :
    errandsBy pace told rest (Invalidation.advanceKind kind invs states).zipIdx =
      errandsBy pace told rest invs.zipIdx := by
  refine List.flatMap_congr fun other among => ?_
  have differ : other ≠ kind := ne_of_mem_of_not_mem among fresh
  rw [Reading.share, Reading.share, ofKind, ofKind,
    Invalidation.filter_zipIdx_advanceKind invs states differ]

/-- The handlers of some kinds try, one after the other, what is planned by what each of them is
told. -/
theorem dispatchKinds_reads {kinds : List Kind} (distinct : kinds.Nodup)
    {invs : List Invalidation}
    (fit : pace.concurrency ≤ Fanout.maxConcurrency ∨ ∀ inv ∈ invs, fansOut inv = false)
    {l : Ledger ε} :
    CarriesOut s l (errandsBy pace (toldIn s pace kinds invs l) kinds invs.zipIdx)
      ((purger s pace).dispatchKinds kinds none invs l) := by
  induction kinds generalizing invs l with
  | nil => exact ⟨rfl, [], rfl, .refl s l⟩
  | cons kind rest ih =>
      obtain ⟨fresh, distinct⟩ := List.nodup_cons.mp distinct
      rw [errandsBy, List.flatMap_cons, toldIn_self, Reading.share]
      by_cases empty : ofKind kind invs.zipIdx = []
      · have absent : Invalidation.ofKind kind invs = [] := by
          rw [← map_fst_ofKind, empty, List.map_nil]
        have later : ∀ other ∈ rest,
            toldIn s pace (kind :: rest) invs l other = toldIn s pace rest invs l other :=
          fun other among => toldIn_skip absent (ne_of_mem_of_not_mem among fresh)
        rw [Purger.dispatchKinds_skip _ rest absent, List.isEmpty_iff.mpr empty, if_pos rfl,
          List.nil_append, ← errandsBy, errandsBy_congr later]
        exact ih distinct fit
      · have some_ : Invalidation.ofKind kind invs ≠ [] := by
          rwa [← map_fst_ofKind, ne_eq, List.map_eq_nil_iff]
        have own : ∀ x ∈ ofKind kind invs.zipIdx, x.1.kind = kind :=
          fun x inside => of_decide_eq_true (List.mem_filter.mp inside).2
        have fit' : pace.concurrency ≤ Fanout.maxConcurrency ∨
            ∀ x ∈ ofKind kind invs.zipIdx, fansOut x.1 = false :=
          fit.imp_right fun quiet x inside =>
            quiet x.1 (List.fst_mem_of_mem_zipIdx (List.mem_filter.mp inside).1)
        have first := purger_handle_charges (s := s) (l := l) pace empty own fit'
        rw [map_fst_ofKind] at first
        generalize handled : (purger s pace).handle kind (Invalidation.ofKind kind invs) l = run
          at first
        obtain ⟨⟨states, ending⟩, l₁⟩ := run
        obtain ⟨rfl, tries, planned, sent⟩ := first
        have later : ∀ other ∈ rest, toldIn s pace (kind :: rest) invs l other =
            toldIn s pace rest (Invalidation.advanceKind kind invs states) l₁ other :=
          fun other among => toldIn_of_done some_ (ne_of_mem_of_not_mem among fresh) handled
        rw [Purger.dispatchKinds_of_done some_ handled]
        obtain ⟨done, more, planned', sent'⟩ := ih (l := l₁) distinct (fit_advanceKind states fit)
        refine ⟨done, tries ++ more, ?_, sent.trans sent'⟩
        rw [List.map_append, planned, planned', List.isEmpty_eq_false_iff.mpr empty,
          if_neg Bool.false_ne_true, ← errandsBy, errandsBy_congr later,
          errandsBy_advanceKind fresh]

/-- A steady platform tells the handlers of all kinds the same. -/
theorem dispatchKinds_charges {kinds : List Kind} (distinct : kinds.Nodup)
    {invs : List Invalidation}
    (fit : pace.concurrency ≤ Fanout.maxConcurrency ∨ ∀ inv ∈ invs, fansOut inv = false)
    {l : Ledger ε} (steady : s.Steady l.outside addresses site) :
    CarriesOut s l (errandsOf pace site addresses kinds invs.zipIdx)
      ((purger s pace).dispatchKinds kinds none invs l) := by
  have told : ∀ kind ∈ kinds,
      toldIn s pace kinds invs l kind = .snapshot site addresses := by
    intro kind _
    obtain ⟨-, tries, -, sent⟩ := dispatchKinds_reads (s := s) (l := l)
      (distinct.sublist (List.takeWhile_sublist (· ≠ kind))) fit
    exact (steady.later sent.undergone).reading kind
  have carried := dispatchKinds_reads (s := s) (l := l) distinct fit
  rwa [errandsBy_congr told, errandsBy_snapshot] at carried

/-- Beyond the limit the first handler that fans anything out breaks off, with nothing tried before:
only the site is purged without a fan-out, and that comes last. -/
theorem dispatchKinds_of_lt (beyond : Fanout.maxConcurrency < pace.concurrency)
    {kinds : List Kind} (last : kinds.Pairwise fun kind _ => kind ≠ .everything)
    {invs : List Invalidation} {inv : Invalidation} (inside : inv ∈ invs)
    (among : inv.kind ∈ kinds) (fans : fansOut inv = true) {l : Ledger ε} :
    ((purger s pace).dispatchKinds kinds none invs l).1.2 = .panicked Fanout.tooManyPermits ∧
      Charges s l ((purger s pace).dispatchKinds kinds none invs l).2 [] := by
  induction kinds generalizing invs l with
  | nil => cases among
  | cons kind rest ih =>
      obtain ⟨early, last⟩ := List.pairwise_cons.mp last
      by_cases empty : Invalidation.ofKind kind invs = []
      · have other : inv.kind ≠ kind := by
          intro same
          have own : inv ∈ Invalidation.ofKind kind invs :=
            List.mem_filter.mpr ⟨inside, decide_eq_true same⟩
          rw [empty] at own
          cases own
        rw [Purger.dispatchKinds_skip _ rest empty]
        exact ih last inside ((List.mem_cons.mp among).resolve_left other)
      · have some_ : kind ≠ .everything := by
          rintro rfl
          cases List.mem_cons.mp among with
          | inl same => simp [fansOut, same] at fans
          | inr later => exact early _ later rfl
        have own : ∀ inv ∈ Invalidation.ofKind kind invs, inv.kind = kind :=
          fun inv inside => of_decide_eq_true (List.mem_filter.mp inside).2
        have first := purger_handle_of_lt (s := s) (l := l) beyond some_ empty own
        generalize handled : (purger s pace).handle kind (Invalidation.ofKind kind invs) l = run
          at first
        obtain ⟨⟨states, ending⟩, l₁⟩ := run
        obtain ⟨answer, sent⟩ := first
        by_cases any : (Invalidation.ofKind kind invs).any fansOut
        · rw [if_pos any] at answer
          obtain rfl : ending = _ := answer
          rw [Purger.dispatchKinds_of_panicked empty handled]
          exact ⟨rfl, sent⟩
        · rw [if_neg any] at answer
          obtain rfl : ending = _ := answer
          have other : inv.kind ≠ kind := fun same => any (List.any_eq_true.mpr
            ⟨inv, List.mem_filter.mpr ⟨inside, decide_eq_true same⟩, fans⟩)
          obtain ⟨i, found⟩ := List.mem_iff_getElem?.mp inside
          have still := Invalidation.getElem?_advanceKind_of_ne states found other
          rw [Purger.dispatchKinds_of_done empty handled]
          obtain ⟨broken, sent'⟩ := ih (l := l₁) last (List.mem_of_getElem? still)
            ((List.mem_cons.mp among).resolve_left other)
          exact ⟨broken, sent.trans sent'⟩

end Dispatch

/-- A dispatch counts as many requests as its list comes to at the addresses, whether or not they
could be built. It counts as failed, and reports, those that could not be built or were not answered
with success. That holds up to the limit of concurrency, and for any setting if there is nothing to
be fanned out; otherwise nothing is tried or counted at all. -/
theorem dispatch_charges (s : Surroundings ε) (pace : Pace) (invs : List Invalidation)
    (l : Ledger ε) {addresses : List String} {site : String}
    (steady : s.Steady l.outside addresses site) :
    let run := (purger s pace).dispatch invs l
    ((pace.concurrency ≤ Fanout.maxConcurrency ∨ ∀ inv ∈ invs, fansOut inv = false) →
      run.1.2 = .done ∧ ∃ tries : List Try,
        tries.map (·.toErrand) = errands pace site addresses invs ∧
        s.Undergoes l.outside tries run.2.outside ∧
        run.2.tally.requestsSent =
          l.tally.requestsSent + .ofNat (requestCount pace addresses.length invs) ∧
        run.2.tally.requestsFailed = l.tally.requestsFailed + .ofNat (failedTries tries) ∧
        run.2.failures = l.failures + failedTries tries) ∧
    (Fanout.maxConcurrency < pace.concurrency → (∃ inv ∈ invs, fansOut inv = true) →
      run.1.2 = .panicked Fanout.tooManyPermits ∧ Charges s l run.2 []) := by
  intro run
  have handled : run = (purger s pace).dispatchKinds Kind.all none invs l := by
    rw [← dispatch_eq]
  rw [handled]
  constructor
  · intro fit
    obtain ⟨done, tries, planned, charges⟩ := dispatchKinds_charges Kind.nodup_all fit steady
    have length : tries.length = requestCount pace addresses.length invs := by
      rw [← length_errands pace site, errands, ← planned, List.length_map]
    exact ⟨done, tries, planned, charges.undergone, length ▸ charges.counted, charges.failed,
      charges.reported⟩
  · rintro beyond ⟨inv, inside, fans⟩
    exact dispatchKinds_of_lt beyond (by decide) inside inv.kind.mem_all fans

/-- Two groups of tags, a page and the whole site at two addresses, and a page of no host at none of
them; one more permit than can be given out keeps all of them from being sent. -/
theorem dispatch_charges_mixed :
    let fleet : Rehearsal := ⟨["10.0.0.1", "10.0.0.2:8080"], "site-a", none, 0, ⟨[], [], true⟩⟩
    let invs := ["a", "b c", "", "d"].map (Invalidation.ofId 0 .tag) ++
      [.ofId 1 .url "https://example.com/", .ofId 2 .wildcardUrl "/relative",
        .ofId 3 .everything "", .ofId 4 .everything ""]
    let run (concurrency : Nat) :=
      (purger Rehearsal.surroundings ⟨2, concurrency⟩).dispatch invs (.start fleet)
    ((run 8).1.2 = .done ∧ (run 8).2.tally.requestsSent = 8 ∧ ∃ tries : List Try,
      tries.length = 8 ∧ (run 8).2.tally.requestsFailed = .ofNat (failedTries tries) ∧
        (run 8).2.failures = failedTries tries) ∧
    (run (Fanout.maxConcurrency + 1)).1.2 = .panicked Fanout.tooManyPermits ∧
      (run (Fanout.maxConcurrency + 1)).2.tally.requestsSent = 0 := by
  intro fleet invs run
  have steady := Rehearsal.steady fleet
  have count : requestCount ⟨2, 8⟩ fleet.edgeAddresses.length invs = 8 := by decide +kernel
  have within :=
    (dispatch_charges Rehearsal.surroundings ⟨2, 8⟩ invs (.start fleet) steady).1 (.inl (by decide))
  have beyond := (dispatch_charges Rehearsal.surroundings ⟨2, Fanout.maxConcurrency + 1⟩ invs
    (.start fleet) steady).2 (Nat.lt_succ_self _) ⟨_, List.mem_cons_self, by decide⟩
  have ran (concurrency : Nat) : (purger Rehearsal.surroundings ⟨2, concurrency⟩).dispatch invs
      (.start fleet) = run concurrency := rfl
  rw [ran] at within beyond
  obtain ⟨done, tries, planned, -, sent, failed, reported⟩ := within
  obtain ⟨panicked, none⟩ := beyond
  have length := congrArg List.length planned
  rw [List.length_map, length_errands, count] at length
  refine ⟨⟨done, ?_, tries, length, ?_, ?_⟩, panicked, none.counted⟩
  · rw [sent, count]
    rfl
  · rw [failed]
    exact UInt64.zero_add _
  · rw [reported]
    exact Nat.zero_add _

end CachePurge.Fleet
