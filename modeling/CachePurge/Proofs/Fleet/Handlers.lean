import CachePurge.Proofs.Fleet.Plan
import CachePurge.Proofs.Fleet.Settling
import Mathlib.Data.List.Basic

/-!
Each handler tries what is planned for its batch, and settles every invalidation by the verdict on
it. Tags are settled by the number of their group, pages by their id, and the site as a whole.
-/

namespace CachePurge.Fleet

variable {ε : Type}

/-- A handler was given a batch when the ledger was `l`: it tried what was planned, and settled
every invalidation by the verdict on it. -/
def Settles (s : Surroundings ε) (l : Ledger ε) (addresses : List String) (plan : List Errand)
    (batch : List Placed) (run : (List Invalidation × Ending) × Ledger ε) : Prop :=
  ∃ tries : List Try, tries.map (·.toErrand) = plan ∧
    s.Undergoes l.outside tries run.2.outside ∧
    run.1 = (batch.map fun x => x.1.settle (verdict addresses tries x), .done)

theorem Settles.later {s : Surroundings ε} {l l' : Ledger ε} {addresses : List String}
    {plan : List Errand} {batch : List Placed} {run : (List Invalidation × Ending) × Ledger ε}
    (settles : Settles s l' addresses plan batch run)
    (before : s.Undergoes l.outside [] l'.outside) : Settles s l addresses plan batch run := by
  obtain ⟨tries, planned, rest, answer⟩ := settles
  exact ⟨tries, planned, before.trans rest, answer⟩

section Questions
variable {s : Surroundings ε} {l : Ledger ε} {addresses : List String} {site : String}

theorem ask_addresses (steady : s.Steady l.outside addresses site) :
    (Ledger.ask s.edgeAddresses l).1 = addresses ∧
      s.Undergoes l.outside [] (Ledger.ask s.edgeAddresses l).2.outside :=
  ⟨steady.addresses, .askAddresses (.rest _)⟩

theorem ask_site (steady : s.Steady l.outside addresses site) :
    (Ledger.ask s.siteIdentifier l).1 = site ∧
      s.Undergoes l.outside [] (Ledger.ask s.siteIdentifier l).2.outside :=
  ⟨steady.site, .askSite (.rest _)⟩

end Questions

section Keys
variable {κ β : Type} {addresses : List String}

/-- What is sent for some things, under the key of each, to every address. -/
def keyedErrands (key : β → κ) (errand : β → String → Errand) (addresses : List String)
    (things : List β) : List (κ × Errand) :=
  things.flatMap fun y => addresses.map fun address => (key y, errand y address)

theorem keyedErrands_errands (key : β → κ) (errand : β → String → Errand) (things : List β) :
    (keyedErrands key errand addresses things).map (·.2) =
      things.flatMap fun y => addresses.map (errand y) := by
  rw [keyedErrands, List.map_flatMap]
  simp only [List.map_map]
  rfl

theorem mem_keyedErrands {key : β → κ} {errand : β → String → Errand} {things : List β}
    {e : κ × Errand} : e ∈ keyedErrands key errand addresses things ↔
      ∃ y ∈ things, ∃ address ∈ addresses, (key y, errand y address) = e := by
  simp only [keyedErrands, List.mem_flatMap, List.mem_map]

/-- If whatever concerns an invalidation is sent under one key, the success of that key is the
verdict on it. -/
theorem verdict_of_key {key : β → κ} {errand : β → String → Errand} {things : List β}
    [BEq κ] {tried : List (κ × Try)} {results : Fanout.Results κ}
    (planned : tried.map (fun x => (x.1, x.2.toErrand)) =
      keyedErrands key errand addresses things)
    (succeeded : ∀ k, results.succeeded k = true ↔ (∃ x ∈ tried, x.1 = k) ∧
      ∀ x ∈ tried, x.1 = k → x.2.isAcknowledged = true)
    {x : Placed} (fit : isAdmissible x.1 = true) {own : β} (inside : own ∈ things)
    (concerns : ∀ y ∈ things, ∀ address,
      (errand y address).aim.concerns x.1 x.2 = true ↔ key y = key own) :
    verdict addresses (tried.map (·.2)) x = results.succeeded (key own) := by
  have sent : ∀ t ∈ tried, ∃ y ∈ things, ∃ address ∈ addresses,
      (key y, errand y address) = (t.1, t.2.toErrand) := fun t member =>
    mem_keyedErrands.mp (planned ▸ List.mem_map_of_mem (f := fun x => (x.1, x.2.toErrand)) member)
  have attempted : (∃ t ∈ tried, t.1 = key own) ↔ addresses ≠ [] := by
    constructor
    · rintro ⟨t, member, -⟩ rfl
      obtain ⟨_, -, _, among, -⟩ := sent t member
      cases among
    · intro some
      obtain ⟨address, among⟩ := List.exists_mem_of_ne_nil addresses some
      have errand : (key own, errand own address) ∈
          tried.map fun x => (x.1, x.2.toErrand) := by
        rw [planned]
        exact mem_keyedErrands.mpr ⟨own, inside, address, among, rfl⟩
      obtain ⟨t, member, same⟩ := List.mem_map.mp errand
      exact ⟨t, member, (Prod.mk.inj same).1⟩
  rw [Bool.eq_iff_iff, verdict_iff, succeeded, attempted]
  simp only [fit, true_and, List.forall_mem_map]
  refine and_congr_right fun _ => forall_congr' fun t => forall_congr' fun member => ?_
  obtain ⟨y, among, address, -, same⟩ := sent t member
  obtain ⟨number, errand⟩ := Prod.mk.inj same
  rw [← errand, ← number, concerns y among address]

end Keys

/-- Whoever is in two groups is in one, since places are not shared. -/
theorem group_unique {groups : List (List Placed)}
    (apart : groups.flatten.Pairwise fun x y => x.2 ≠ y.2) {i j : Nat} {g g' : List Placed}
    (at_i : groups[i]? = some g) (at_j : groups[j]? = some g') {x y : Placed} (in_g : x ∈ g)
    (in_g' : y ∈ g') (same : x.2 = y.2) : i = j := by
  obtain ⟨hi, rfl⟩ := List.getElem?_eq_some_iff.mp at_i
  obtain ⟨hj, rfl⟩ := List.getElem?_eq_some_iff.mp at_j
  have across := List.pairwise_iff_getElem.mp (List.pairwise_flatten.mp apart).2
  rcases Nat.lt_trichotomy i j with lt | eq | gt
  · exact absurd same (across i j hi hj lt x in_g y in_g')
  · exact eq
  · exact absurd same.symm (across j i hj hi gt y in_g' x in_g)

/-- States given to groups by their numbers are states given to their members one by one. -/
theorem groupStates_eq {groups : List (List Placed)} {results : Fanout.Results Nat}
    (state : Placed → State)
    (agree : ∀ g i, (g, i) ∈ groups.zipIdx → ∀ x ∈ g,
      state x = .ofSuccess (results.succeeded i)) (f : Placed → Invalidation) :
    groupStates (groups.map (List.map f)) results = groups.flatten.map state := by
  have each : groups.zipIdx.flatMap (fun x =>
      List.replicate x.1.length (State.ofSuccess (results.succeeded x.2))) =
        groups.zipIdx.flatMap fun x => x.1.map state := by
    refine List.flatMap_congr fun x inside => (List.map_eq_replicate_iff.mpr ?_).symm
    exact fun y member => agree x.1 x.2 inside y member
  rw [groupStates, List.zipIdx_map, List.flatMap_map]
  simp only [Prod.map, List.length_map, id_eq]
  rw [each, ← List.flatMap_map, List.zipIdx_map_fst, List.map_flatten]
  rfl

section Tags

/-- What is sent for groups of tags, under the number of each, to every address. -/
def saltedErrands (salt site : String) (addresses : List String) (groups : List (List Placed)) :
    List (Nat × Errand) :=
  keyedErrands (·.2) (fun x => saltedErrand salt site x.1) addresses groups.zipIdx

def numberedErrands (site : String) (addresses : List String) (groups : List (List Placed)) :
    List (Nat × Errand) :=
  keyedErrands (·.2) (fun x => tagErrand site x.1) addresses groups.zipIdx

variable {s : Surroundings ε} {pace : Pace} {addresses : List String} {salt site : String}
  {batch : List Placed}

theorem saltedErrands_errands (groups : List (List Placed)) :
    (saltedErrands salt site addresses groups).map (·.2) =
      groups.flatMap fun group => addresses.map (saltedErrand salt site group) := by
  rw [saltedErrands, keyedErrands_errands]
  conv_rhs => rw [← List.zipIdx_map_fst 0 groups, List.flatMap_map]

theorem saltedErrands_requests (groups : List (List Placed)) (f : Placed → Invalidation)
    (same : ∀ x, (f x).expression = x.1.expression) :
    (saltedErrands salt site addresses groups).map (fun x => (x.1, x.2.request)) =
      tagRequests site addresses ((groups.map (List.map f)).map fun group =>
        let tags := group.map (·.expression)
        (tags.map (Tag.digest salt), tags)) := by
  rw [saltedErrands, keyedErrands, tagRequests, List.zipIdx_map, List.zipIdx_map,
    List.map_flatMap, List.flatMap_map, List.flatMap_map]
  simp only [List.map_map, Function.comp_def, Prod.map, saltedErrand, same, id_eq]

theorem numberedErrands_errands (groups : List (List Placed)) :
    (numberedErrands site addresses groups).map (·.2) =
      groups.flatMap fun group => addresses.map (tagErrand site group) :=
  saltedErrands_errands groups

theorem numberedErrands_requests (groups : List (List Placed)) (f : Placed → Invalidation)
    (same : ∀ x, (f x).expression = x.1.expression) :
    (numberedErrands site addresses groups).map (fun x => (x.1, x.2.request)) =
      tagRequests site addresses ((groups.map (List.map f)).map fun group =>
        let tags := group.map (·.expression)
        (tags.map (Tag.digest site), tags)) :=
  saltedErrands_requests groups f same

/-- A try concerns a member of a group just when it was made under the number of the group. -/
theorem verdict_of_group {groups : List (List Placed)}
    (apart : groups.flatten.Pairwise fun x y => x.2 ≠ y.2)
    (fit : ∀ x ∈ groups.flatten, x.1.kind = .tag ∧ isSendable x.1 = true)
    {tried : List (Nat × Try)} {results : Fanout.Results Nat}
    (planned : tried.map (fun x => (x.1, x.2.toErrand)) = numberedErrands site addresses groups)
    (succeeded : ∀ k, results.succeeded k = true ↔ (∃ x ∈ tried, x.1 = k) ∧
      ∀ x ∈ tried, x.1 = k → x.2.isAcknowledged = true)
    {group : List Placed} {i : Nat} (numbered : (group, i) ∈ groups.zipIdx) {x : Placed}
    (member : x ∈ group) :
    verdict addresses (tried.map (·.2)) x = results.succeeded i := by
  have at_i : groups[i]? = some group := List.mem_zipIdx_iff_getElem?.mp numbered
  obtain ⟨tag, sendable⟩ := fit x (List.mem_flatten_of_mem (List.mem_of_getElem? at_i) member)
  have admissible : isAdmissible x.1 = true := by rwa [isAdmissible, tag]
  refine verdict_of_key planned succeeded admissible numbered ?_
  rintro ⟨other, j⟩ among address
  have at_j : groups[j]? = some other := List.mem_zipIdx_iff_getElem?.mp among
  simp only [tagErrand, Aim.concerns, Aim.kind, tag, decide_true, Bool.true_and,
    List.contains_iff_mem, List.mem_map]
  constructor
  · rintro ⟨y, in_other, same⟩
    exact group_unique apart at_j at_i in_other member same
  · rintro rfl
    rw [at_i] at at_j
    cases at_j
    exact ⟨x, member, rfl⟩

theorem flatten_tagGroups (pace : Pace) (batch : List Placed) :
    (tagGroups pace batch).flatten = batch.filter fun x => isSendable x.1 :=
  flatten_groupsOf _ _

theorem banGroups_settles {l : Ledger ε} (steady : s.Steady l.outside addresses site)
    (within : pace.concurrency ≤ Fanout.maxConcurrency)
    (apart : batch.Pairwise fun x y => x.2 ≠ y.2) (tags : ∀ x ∈ batch, x.1.kind = .tag)
    (unsettled : ∀ x ∈ batch, x.1.isTerminal = false) :
    Settles s l addresses (batchErrands pace site addresses .tag batch) batch
      (banGroups s pace site ((tagGroups pace batch).map (List.map fun x => admitTag x.1))
        (batch.map fun x => admitTag x.1) l) := by
  obtain ⟨given, asked⟩ := ask_addresses steady
  obtain ⟨name, asked'⟩ := ask_site (steady.later asked)
  simp only [banGroups, bind_apply, given, name]
  refine Settles.later ?_ (asked.trans asked')
  generalize (Ledger.ask s.siteIdentifier (Ledger.ask s.edgeAddresses l).2).2 = l'
  rw [← numberedErrands_requests (tagGroups pace batch) _ fun x => admitTag_expression x.1]
  obtain ⟨tried, results, l'', run, planned, undergone, succeeded⟩ :=
    fanOut_tries s within Nat.repr (numberedErrands site addresses (tagGroups pace batch)) l'
  rw [run]
  obtain ⟨settled, outside, -⟩ := settleTags_tallies
    ((tagGroups pace batch).map (List.map fun x => admitTag x.1)) results
    (batch.map fun x => admitTag x.1) l''
  refine ⟨tried.map (·.2), ?_, ?_, congrArg (·, Ending.done) (settled.trans ?_)⟩
  · rw [batchErrands, ← numberedErrands_errands, ← planned, List.map_map, List.map_map]
    rfl
  · exact outside.symm ▸ undergone
  · have fit : ∀ x ∈ (tagGroups pace batch).flatten, x.1.kind = .tag ∧ isSendable x.1 = true := by
      rw [flatten_tagGroups]
      exact fun x inside => ⟨tags x (List.mem_filter.mp inside).1, (List.mem_filter.mp inside).2⟩
    have apart' : (tagGroups pace batch).flatten.Pairwise fun x y => x.2 ≠ y.2 := by
      rw [flatten_tagGroups]
      exact apart.filter _
    rw [groupStates_eq (fun x => .ofSuccess (verdict addresses (tried.map (·.2)) x))
      fun group i numbered x member =>
        congrArg _ (verdict_of_group apart' fit planned succeeded numbered member)]
    have sendable : batch.filter (fun x => isSendable x.1) =
        batch.filter fun x => isSendable (admitTag x.1) := by
      simp only [isSendable_admitTag]
    rw [flatten_tagGroups, sendable, Invalidation.advanceEach_map isSendable]
    refine List.map_congr_left fun x inside => (advance_admitTag (unsettled x inside) _).trans ?_
    rw [Bool.and_eq_right_iff_imp.mpr fun good => ?_]
    have admissible := (verdict_iff.mp good).1
    rwa [isAdmissible, tags x inside] at admissible

/-- Admission leaves the groups as they are. -/
theorem admittedGroups_eq (pace : Pace) (placed : List Placed) :
    groupsOf pace.groupSize ((placed.map fun x => admitTag x.1).filter isSendable) =
      (tagGroups pace placed).map (List.map fun x => admitTag x.1) := by
  rw [tagGroups, ← groupsOf_map, List.filter_map]
  simp only [Function.comp_def, isSendable_admitTag]

theorem purgeTags_settles {l : Ledger ε} (steady : s.Steady l.outside addresses site)
    (within : pace.concurrency ≤ Fanout.maxConcurrency)
    (apart : batch.Pairwise fun x y => x.2 ≠ y.2) (tags : ∀ x ∈ batch, x.1.kind = .tag)
    (unsettled : ∀ x ∈ batch, x.1.isTerminal = false) :
    Settles s l addresses (batchErrands pace site addresses .tag batch) batch
      (purgeTags s pace (batch.map (·.1)) l) := by
  obtain ⟨admitted, outside, -⟩ := admitTags_tallies (batch.map (·.1)) l
  rw [List.map_map] at admitted
  rw [← outside] at steady
  obtain ⟨salt, asked⟩ := ask_site steady
  simp only [purgeTags, bind_apply, admitted, Function.comp_def, admittedGroups_eq, salt]
  refine Settles.later ?_ (outside ▸ asked)
  cases none : ((tagGroups pace batch).map (List.map fun x => admitTag x.1)).isEmpty with
  | false => exact banGroups_settles (steady.later asked) within apart tags unsettled
  | true =>
      rw [List.isEmpty_iff, List.map_eq_nil_iff] at none
      have unfit : ∀ x ∈ batch, isSendable x.1 = false := by
        have sendable := flatten_tagGroups pace batch
        rw [none, List.flatten_nil, eq_comm, List.filter_eq_nil_iff] at sendable
        exact fun x inside => Bool.eq_false_iff.mpr (sendable x inside)
      refine ⟨[], by rw [batchErrands, none]; rfl, .rest _, ?_⟩
      refine congrArg (·, Ending.done) (List.map_congr_left fun x inside => ?_)
      rw [verdict_of_not_isAdmissible (by rw [isAdmissible, tags x inside]; exact unfit x inside)]
      exact admitTag_of_not_isSendable (unfit x inside)

end Tags

section Pages
variable {s : Surroundings ε} {pace : Pace} {addresses : List String} {site : String}
  {batch : List Placed}

theorem keyedErrands_pages (m : PageMethod) (kind : Kind) (batch : List Placed) :
    (keyedErrands (fun x : Placed => x.1.id) (pageErrand m kind site) addresses
        (batch.filter fun x => isRoutable x.1.expression)).map (fun x => (x.1, x.2.request)) =
      pageRequests m site addresses
        ((((batch.map (·.1)).map admitPage).filter fun inv => isRoutable inv.expression).map
          fun inv => (inv.id, inv.expression)) := by
  rw [keyedErrands, pageRequests, List.map_map, List.filter_map, List.map_map, List.map_flatMap,
    List.flatMap_map]
  simp only [List.map_map, Function.comp_def, admitPage_expression, admitPage_id, pageErrand]

theorem purgePages_settles {l : Ledger ε} (steady : s.Steady l.outside addresses site)
    (within : pace.concurrency ≤ Fanout.maxConcurrency) {kind : Kind} (m : PageMethod)
    (pages : ∀ x ∈ batch, x.1.kind = kind ∧ isAdmissible x.1 = isRoutable x.1.expression)
    (unsettled : ∀ x ∈ batch, x.1.isTerminal = false) :
    Settles s l addresses (pageErrands m kind site addresses batch) batch
      (purgePages s pace m (batch.map (·.1)) l) := by
  obtain ⟨given, asked⟩ := ask_addresses steady
  obtain ⟨name, asked'⟩ := ask_site (steady.later asked)
  simp only [purgePages, bind_apply, given, name]
  refine Settles.later ?_ (asked.trans asked')
  generalize (Ledger.ask s.siteIdentifier (Ledger.ask s.edgeAddresses l).2).2 = l'
  rw [← keyedErrands_pages m kind]
  obtain ⟨tried, results, l'', run, planned, undergone, succeeded⟩ :=
    fanOut_tries s within Uuid.toText _ l'
  rw [run]
  obtain ⟨settled, outside, -⟩ :=
    settlePages_tallies results ((batch.map (·.1)).map admitPage) l''
  refine ⟨tried.map (·.2), ?_, ?_, congrArg (·, Ending.done) (settled.trans ?_)⟩
  · rw [pageErrands, ← keyedErrands_errands (fun x : Placed => x.1.id), ← planned, List.map_map,
      List.map_map]
    rfl
  · exact outside.symm ▸ undergone
  · rw [List.map_map, List.map_map]
    refine List.map_congr_left fun x inside => ?_
    obtain ⟨same, fit⟩ := pages x inside
    refine (settlePage_admitPage (unsettled x inside)).trans (congrArg (x.1.settle ·) ?_)
    cases h : isRoutable x.1.expression with
    | false => rw [verdict_of_not_isAdmissible (fit.trans h), Bool.false_and]
    | true =>
        have own : x ∈ batch.filter fun x => isRoutable x.1.expression :=
          List.mem_filter.mpr ⟨inside, h⟩
        rw [Bool.true_and, verdict_of_key planned succeeded (fit.trans h) own]
        intro y _ address
        simp only [pageErrand, Aim.concerns, Aim.kind, same, decide_true, Bool.true_and,
          decide_eq_true_eq]
        exact eq_comm

end Pages

section Site
variable {s : Surroundings ε} {addresses : List String} {site : String} {batch : List Placed}

theorem purgeSiteAt_apply (s : Surroundings ε) (site address : String) (l : Ledger ε) :
    ∃ t : Try, t.toErrand = siteErrand site address ∧
      s.Undergoes l.outside [t] (purgeSiteAt s site address l).2.outside ∧
      (purgeSiteAt s site address l).1 = t.isAcknowledged := by
  obtain ⟨t, errand, run, success, -⟩ := exchange_try s (siteErrand site address) l
  have request : (siteErrand site address).request = siteRequest site address := rfl
  rw [request] at run success
  refine ⟨t, errand, ?_⟩
  rw [← success, Fanout.Outcome.isSuccess]
  simp only [purgeSiteAt, bind_apply]
  generalize exchange s (siteRequest site address) l = ended at run
  cases ended.1.2.fault? <;> exact ⟨run, rfl⟩

theorem purgeSiteAt_tries (s : Surroundings ε) (site : String) (addresses : List String)
    (l : Ledger ε) :
    ∃ tries : List Try, tries.map (·.toErrand) = addresses.map (siteErrand site) ∧
      s.Undergoes l.outside tries (addresses.mapM (purgeSiteAt s site) l).2.outside ∧
      (addresses.mapM (purgeSiteAt s site) l).1 = tries.map (·.isAcknowledged) := by
  induction addresses generalizing l with
  | nil => exact ⟨[], rfl, .rest _, rfl⟩
  | cons address rest ih =>
      obtain ⟨t, errand, run, acknowledged⟩ := purgeSiteAt_apply s site address l
      obtain ⟨tries, planned, more, all⟩ := ih (purgeSiteAt s site address l).2
      refine ⟨t :: tries, by rw [List.map_cons, List.map_cons, errand, planned], ?_⟩
      rw [mapM_cons_apply]
      exact ⟨run.trans more, by rw [List.map_cons, acknowledged, all]⟩

theorem purgeSite_settles {l : Ledger ε} (steady : s.Steady l.outside addresses site)
    (whole : ∀ x ∈ batch, x.1.kind = .everything)
    (unsettled : ∀ x ∈ batch, x.1.isTerminal = false) :
    Settles s l addresses (addresses.map (siteErrand site)) batch
      (purgeSite s (batch.map (·.1)) l) := by
  obtain ⟨given, asked⟩ := ask_addresses steady
  obtain ⟨name, asked'⟩ := ask_site (steady.later asked)
  simp only [purgeSite, bind_apply, given, name]
  refine Settles.later ?_ (asked.trans asked')
  generalize (Ledger.ask s.siteIdentifier (Ledger.ask s.edgeAddresses l).2).2 = l'
  obtain ⟨tries, planned, undergone, acknowledged⟩ :=
    purgeSiteAt_tries s site addresses l'
  refine ⟨tries, planned, undergone, congrArg (·, Ending.done) ?_⟩
  rw [acknowledged, List.map_map, List.map_map]
  refine List.map_congr_left fun x inside => ?_
  refine (Invalidation.settle_process (unsettled x inside) _).trans (congrArg (x.1.settle ·) ?_)
  have concerns : ∀ t ∈ tries, t.aim.concerns x.1 x.2 = true := by
    intro t member
    have sent := List.mem_map_of_mem (f := (·.toErrand)) member
    rw [planned] at sent
    obtain ⟨address, -, errand⟩ := List.mem_map.mp sent
    rw [← errand]
    simp only [siteErrand, Aim.concerns, Aim.kind, whole x inside, decide_true, Bool.and_self]
  rw [Bool.eq_iff_iff, verdict_iff]
  simp only [Bool.and_eq_true, Bool.not_eq_true', List.isEmpty_eq_false_iff, List.all_map,
    List.all_eq_true, Function.comp_apply, id_eq, isAdmissible, whole x inside, true_and]
  refine and_congr_right fun _ => forall_congr' fun t => forall_congr' fun member => ?_
  rw [concerns t member]
  exact ⟨fun good _ => good, fun good => good rfl⟩

end Site

theorem handle_settles {s : Surroundings ε} (pace : Pace) {addresses : List String}
    {site : String} {l : Ledger ε} (steady : s.Steady l.outside addresses site)
    (within : pace.concurrency ≤ Fanout.maxConcurrency) {kind : Kind} {batch : List Placed}
    (apart : batch.Pairwise fun x y => x.2 ≠ y.2) (own : ∀ x ∈ batch, x.1.kind = kind)
    (unsettled : ∀ x ∈ batch, x.1.isTerminal = false) :
    Settles s l addresses (batchErrands pace site addresses kind batch) batch
      (handle s pace kind (batch.map (·.1)) l) := by
  cases kind with
  | tag => exact purgeTags_settles steady within apart own unsettled
  | url =>
      refine purgePages_settles steady within exact (fun x inside => ⟨own x inside, ?_⟩) unsettled
      rw [isAdmissible, own x inside]
  | wildcardUrl =>
      refine purgePages_settles steady within pattern (fun x inside => ⟨own x inside, ?_⟩) unsettled
      rw [isAdmissible, own x inside]
  | everything => exact purgeSite_settles steady own unsettled

end CachePurge.Fleet
