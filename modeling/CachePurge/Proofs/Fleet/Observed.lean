import CachePurge.Proofs.Fleet.Reporting
import CachePurge.Proofs.Purger.Visits

/-!
What an observer of a fleet's purger is told. Each visit to a handler is told as one bracket, in
which each attempt that failed is reported once: under the number of its group of tags, the id of
its page, or the address of the edge. A handler whose fan-out is refused reports nothing, yet is
told as entered and left; after it there are no others.
-/

namespace CachePurge.Fleet

variable {ε : Type} {s : Surroundings ε}

theorem scope?_eq (kind : Kind) : scope? kind = some kind.handlerName := by
  cases kind <;> rfl

/-- The requests for a batch of tags by whoever was told this, under the numbers of their groups. -/
def Reading.tagRequests (told : Reading) (size : Nat) (batch : List Invalidation) :
    List (Nat × Except Fault Http.Request) :=
  Fleet.tagRequests told.site told.addresses
    ((groupsOf size (batch.filter isSendable)).map fun group =>
      let tags := group.map (·.expression)
      (tags.map (Tag.digest told.salt), tags))

/-- The requests for a batch of pages, under the ids of the pages. -/
def Reading.pageRequests (told : Reading) (m : PageMethod) (batch : List Invalidation) :
    List (Uuid × Except Fault Http.Request) :=
  Fleet.pageRequests m told.site told.addresses
    ((batch.filter fun inv => isRoutable inv.expression).map fun inv => (inv.id, inv.expression))

/-- The requests for the site, under the addresses of the edge. -/
def Reading.siteRequests (told : Reading) : List (String × Except Fault Http.Request) :=
  told.addresses.map fun address => (address, siteRequest told.site address)

/-- What a handler attempts for its batch, by what it is told when it starts. The site is purged one
address after the other. -/
def Making.attempts (made : Making s) (size : Nat) (kind : Kind) (batch : List Invalidation)
    (e : ε) : List (Fanout.Attempt String) :=
  let told := (s.reading kind e).1
  let e := (s.reading kind e).2
  match kind with
  | .tag => (made.tags (told.tagRequests size batch) e).map (relabel Nat.repr)
  | .url => (made.pages (told.pageRequests exact batch) e).map (relabel Uuid.toText)
  | .wildcardUrl => (made.pages (told.pageRequests pattern batch) e).map (relabel Uuid.toText)
  | .everything => Fleet.inTurn s told.siteRequests e

theorem Making.tags_nil (made : Making s) (e : ε) : made.tags [] e = [] :=
  List.forall₂_nil_left_iff.mp (made.tags_attempted [] e)

theorem admitTags_tells_nothing (batch : List Invalidation) :
    Keeps (notices (ε := ε)) (admitTags batch) := by
  refine .mapM (fun inv => ?_) batch
  cases isSendable inv with
  | true => exact .pure _
  | false => exact (Ledger.count_tells_nothing false 1).bind fun _ => .pure _

theorem settleTags_tells_nothing (groups : List (List Invalidation))
    (results : Fanout.Results Nat) (batch : List Invalidation) :
    Keeps (notices (ε := ε)) (settleTags groups results batch) :=
  (Keeps.forM (fun x : Nat × Bool => Ledger.count_tells_nothing x.2 x.1) _).bind fun _ => .pure _

theorem settlePages_tells_nothing (results : Fanout.Results Uuid) (batch : List Invalidation) :
    Keeps (notices (ε := ε)) (settlePages results batch) := by
  refine .mapM (fun inv => ?_) batch
  cases inv.isTerminal with
  | true => exact .pure _
  | false => exact (Ledger.count_tells_nothing (results.succeeded inv.id) 1).bind fun _ => .pure _

/-- Admission leaves the texts of the groups as they are. -/
theorem admittedGroups_written (size : Nat) (salt : String) (batch : List Invalidation) :
    ((groupsOf size ((batch.map admitTag).filter isSendable)).map fun group =>
        let tags := group.map (·.expression)
        (tags.map (Tag.digest salt), tags)) =
      (groupsOf size (batch.filter isSendable)).map fun group =>
        let tags := group.map (·.expression)
        (tags.map (Tag.digest salt), tags) := by
  rw [List.filter_map, groupsOf_map, List.map_map]
  simp only [Function.comp_def, List.map_map, admitTag_expression, isSendable_admitTag]

section Handlers
variable (send : Sender ε) (size : Nat) {batch : List Invalidation} (l : Ledger ε)

theorem purgeTagsBy_of_none (none : batch.any isSendable = false) :
    (purgeTagsBy send s size batch l).1.2 = .done ∧
      notices (purgeTagsBy send s size batch l).2 = notices l := by
  have admitted := (admitTags_tallies batch l).1
  have told := admitTags_tells_nothing batch l
  simp only [purgeTagsBy, bind_apply, admitted, isEmpty_admittedGroups, none, Bool.not_false,
    if_true]
  exact ⟨rfl, told⟩

/-- Until its requests are sent the handler of tags only reads the platform. -/
theorem purgeTagsBy_sends (some_ : batch.any isSendable = true) :
    ∃ l₁, l₁.outside = (s.reading .tag l.outside).2 ∧ notices l₁ = notices l ∧
      purgeTagsBy send s size batch l =
        sendThen send.tags ((s.reading .tag l.outside).1.tagRequests size batch)
          (batch.map admitTag) (fun results =>
            settleTags (groupsOf size ((batch.map admitTag).filter isSendable)) results
              (batch.map admitTag)) l₁ := by
  obtain ⟨admitted, outside, -⟩ := admitTags_tallies batch l
  refine ⟨{ (admitTags batch l).2 with outside := (s.reading .tag l.outside).2 }, rfl,
    admitTags_tells_nothing batch l, ?_⟩
  simp only [purgeTagsBy, bind_apply, admitted, isEmpty_admittedGroups, some_, Bool.not_true,
    Bool.false_eq_true, if_false, banGroupsBy, admittedGroups_written, ← outside]
  generalize (admitTags batch l).2 = l₁
  have asked : Ledger.ask s.siteIdentifier
      (Ledger.ask s.edgeAddresses (Ledger.ask s.siteIdentifier l₁).2).2 =
        ((s.reading .tag l₁.outside).1.site,
          { l₁ with outside := (s.reading .tag l₁.outside).2 }) := rfl
  have addresses : (Ledger.ask s.edgeAddresses (Ledger.ask s.siteIdentifier l₁).2).1 =
      (s.reading .tag l₁.outside).1.addresses := rfl
  have salt : (Ledger.ask s.siteIdentifier l₁).1 = (s.reading .tag l₁.outside).1.salt := rfl
  simp only [asked, addresses, salt, sendThen, Reading.tagRequests, bind_apply]
  cases (send.tags _ _).1 <;> rfl

/-- Until its requests are sent the handler of pages only reads the platform. -/
theorem purgePagesBy_sends (m : PageMethod) (batch : List Invalidation) :
    ∃ l₁, l₁.outside = (s.reading .url l.outside).2 ∧ notices l₁ = notices l ∧
      purgePagesBy send s m batch l =
        sendThen send.pages ((s.reading .url l.outside).1.pageRequests m batch)
          (batch.map admitPage) (fun results => settlePages results (batch.map admitPage)) l₁ := by
  refine ⟨{ l with outside := (s.reading .url l.outside).2 }, rfl, rfl, ?_⟩
  have asked : Ledger.ask s.siteIdentifier (Ledger.ask s.edgeAddresses l).2 =
      ((s.reading .url l.outside).1.site, { l with outside := (s.reading .url l.outside).2 }) := rfl
  have addresses : (Ledger.ask s.edgeAddresses l).1 = (s.reading .url l.outside).1.addresses := rfl
  simp only [purgePagesBy, bind_apply, asked, addresses, List.filter_map, List.map_map,
    Function.comp_def, admitPage_expression, admitPage_id, sendThen, Reading.pageRequests]
  cases (send.pages _ _).1 <;> rfl

end Handlers

theorem purgeSiteAt_reports (s : Surroundings ε) (site address : String) (l : Ledger ε) :
    let tried := attempt s address (siteRequest site address) l
    (purgeSiteAt s site address l).2.outside = tried.2.outside ∧
      notices (purgeSiteAt s site address l).2 =
        notices l ++ (Fanout.failures [tried.1]).map fun x => .failed x.1 x.2 := by
  intro tried
  have kept := exchange_tells_nothing s (siteRequest site address) l
  have own : tried = attempt s address (siteRequest site address) l := rfl
  rw [attempt_apply] at own
  simp only [purgeSiteAt, bind_apply]
  rw [own]
  generalize exchange s (siteRequest site address) l = ended at kept
  rw [← kept, Fanout.failures, List.filterMap_cons]
  cases ended.1.2.fault? with
  | none => exact ⟨rfl, (List.append_nil _).symm⟩
  | some fault => exact ⟨rfl, Ledger.notices_note _ _⟩

theorem purgeSiteAt_all_reports (s : Surroundings ε) (site : String) (addresses : List String)
    (l : Ledger ε) :
    notices (addresses.mapM (purgeSiteAt s site) l).2 = notices l ++
      (Fanout.failures (inTurn s
        (addresses.map fun address => (address, siteRequest site address)) l.outside)).map
        fun x => .failed x.1 x.2 := by
  induction addresses generalizing l with
  | nil => exact (List.append_nil _).symm
  | cons address rest ih =>
      obtain ⟨outside, told⟩ := purgeSiteAt_reports s site address l
      rw [mapM_cons_apply, ih, told, outside, List.map_cons, inTurn_cons, List.append_assoc,
        ← List.map_append, ← Fanout.failures_append, List.singleton_append]

theorem purgeSite_reports (made : Making s) (size : Nat) (batch : List Invalidation)
    (l : Ledger ε) :
    (purgeSite s batch l).1.2 = .done ∧
      Reports l (made.attempts size .everything batch l.outside) (purgeSite s batch l).2 := by
  refine ⟨rfl, _, .refl _, ?_⟩
  exact purgeSiteAt_all_reports s (s.reading .everything l.outside).1.site
    (s.reading .everything l.outside).1.addresses
    { l with outside := (s.reading .everything l.outside).2 }

/-- Whether an invalidation makes its handler break off under a setting. -/
def breaksOff (setting : Nat) (inv : Invalidation) : Bool :=
  decide (Fanout.maxConcurrency < setting) && fansOut inv

theorem breaksOff_eq_true {setting : Nat} {inv : Invalidation} :
    breaksOff setting inv = true ↔ Fanout.maxConcurrency < setting ∧ fansOut inv = true := by
  rw [breaksOff, Bool.and_eq_true, decide_eq_true_eq]

section Handlers
variable {setting : Nat} {made : Making s} {send : Sender ε} (tells : send.Tells setting made)
  (size : Nat) {kind : Kind} {batch : List Invalidation} {l : Ledger ε}

theorem Making.attempts_of_none (made : Making s) (none : batch.any isSendable = false) (e : ε) :
    made.attempts size .tag batch e = [] := by
  have rejected : batch.filter isSendable = [] :=
    List.filter_eq_nil_iff.mpr (List.any_eq_false.mp none)
  have requests : (s.reading .tag e).1.tagRequests size batch = [] := by
    rw [Reading.tagRequests, rejected, groupsOf_nil]
    rfl
  simp only [Making.attempts, requests, made.tags_nil, List.map_nil]

include tells

/-- The limit does not matter if no tag can be sent. -/
theorem purgeTagsBy_reports
    (fit : setting ≤ Fanout.maxConcurrency ∨ batch.any isSendable = false) :
    (purgeTagsBy send s size batch l).1.2 = .done ∧
      Reports l (made.attempts size .tag batch l.outside) (purgeTagsBy send s size batch l).2 := by
  cases some_ : batch.any isSendable with
  | false =>
      obtain ⟨done, told⟩ := purgeTagsBy_of_none (s := s) send size l some_
      refine ⟨done, [], ?_, told.trans (List.append_nil _).symm⟩
      rw [made.attempts_of_none size some_]
      exact .refl _
  | true =>
      have within := fit.resolve_right (by rw [some_]; nofun)
      obtain ⟨l₁, outside, before, run⟩ := purgeTagsBy_sends (s := s) send size l some_
      obtain ⟨done, reports⟩ := sendThen_within tells.1 within
        ((s.reading .tag l.outside).1.tagRequests size batch) (batch.map admitTag)
        (fun results => settleTags_tells_nothing
          (groupsOf size ((batch.map admitTag).filter isSendable)) results (batch.map admitTag)) l₁
      rw [run]
      rw [outside] at reports
      exact ⟨done, reports.later before⟩

theorem purgePagesBy_reports (within : setting ≤ Fanout.maxConcurrency) (m : PageMethod) :
    (purgePagesBy send s m batch l).1.2 = .done ∧
      Reports l ((made.pages ((s.reading .url l.outside).1.pageRequests m batch)
        (s.reading .url l.outside).2).map (relabel Uuid.toText))
        (purgePagesBy send s m batch l).2 := by
  obtain ⟨l₁, outside, before, run⟩ := purgePagesBy_sends (s := s) send l m batch
  obtain ⟨done, reports⟩ := sendThen_within tells.2 within
    ((s.reading .url l.outside).1.pageRequests m batch) (batch.map admitPage)
    (fun results => settlePages_tells_nothing results (batch.map admitPage)) l₁
  rw [run]
  rw [outside] at reports
  exact ⟨done, reports.later before⟩

/-- Every handler reports each attempt of its own that failed, unless its fan-out is refused. -/
theorem handleBy_reports (nonempty : batch ≠ []) (own : ∀ inv ∈ batch, inv.kind = kind)
    (fit : batch.any (breaksOff setting) = false) :
    (handleBy send s size kind batch l).1.2 = .done ∧
      Reports l (made.attempts size kind batch l.outside)
        (handleBy send s size kind batch l).2 := by
  rw [List.any_eq_false] at fit
  obtain ⟨first, inside⟩ := List.exists_mem_of_ne_nil batch nonempty
  have kind_eq := own first inside
  have within_of_loud {inv : Invalidation} (among : inv ∈ batch) (loud : fansOut inv = true) :
      setting ≤ Fanout.maxConcurrency :=
    Nat.le_of_not_lt fun beyond => fit inv among (breaksOff_eq_true.mpr ⟨beyond, loud⟩)
  cases kind with
  | tag =>
      refine purgeTagsBy_reports tells size ?_
      rw [← any_fansOut_of_tag own, or_iff_not_imp_right, Bool.not_eq_false, List.any_eq_true]
      rintro ⟨inv, among, loud⟩
      exact within_of_loud among loud
  | url => exact purgePagesBy_reports tells (within_of_loud inside (by rw [fansOut, kind_eq])) exact
  | wildcardUrl =>
      exact purgePagesBy_reports tells (within_of_loud inside (by rw [fansOut, kind_eq])) pattern
  | everything => exact purgeSite_reports made size batch l

/-- A handler whose fan-out is refused breaks off and reports nothing. -/
theorem handleBy_refused (own : ∀ inv ∈ batch, inv.kind = kind)
    (unfit : batch.any (breaksOff setting) = true) :
    (handleBy send s size kind batch l).1.2 = .panicked Fanout.tooManyPermits ∧
      notices (handleBy send s size kind batch l).2 = notices l := by
  obtain ⟨inv, among, breaks⟩ := List.any_eq_true.mp unfit
  obtain ⟨beyond, loud⟩ := breaksOff_eq_true.mp breaks
  have page (m : PageMethod) :
      (purgePagesBy send s m batch l).1.2 = .panicked Fanout.tooManyPermits ∧
        notices (purgePagesBy send s m batch l).2 = notices l := by
    obtain ⟨l₁, -, before, run⟩ := purgePagesBy_sends (s := s) send l m batch
    rw [run, sendThen_beyond tells.2 beyond]
    exact ⟨rfl, before⟩
  rw [fansOut, own inv among] at loud
  cases kind with
  | tag =>
      obtain ⟨l₁, -, before, run⟩ := purgeTagsBy_sends (s := s) send size l
        (List.any_eq_true.mpr ⟨inv, among, loud⟩)
      rw [handleBy, run, sendThen_beyond tells.1 beyond]
      exact ⟨rfl, before⟩
  | url => exact page exact
  | wildcardUrl => exact page pattern
  | everything => cases loud

end Handlers

section Visits
variable {setting : Nat} {made : Making s} {send : Sender ε} {size : Nat}
  {visit : Purger.Visit (Ledger ε)}

/-- A visit was told as one bracket with the failures of its attempts, in some order. -/
def Bracketed (made : Making s) (send : Sender ε) (size : Nat)
    (visit : Purger.Visit (Ledger ε)) : Prop :=
  ∃ failures : List (String × Fault), failures.Perm (Fanout.failures
      (made.attempts size visit.kind visit.batch visit.before.outside)) ∧
    visit.told (purgerBy send s size) notices = bracket visit.kind failures

/-- How a visit ended, and what was told of it. -/
structure VisitTold (setting : Nat) (made : Making s) (send : Sender ε) (size : Nat)
    (visit : Purger.Visit (Ledger ε)) : Prop where
  answer : (visit.answer (purgerBy send s size)).2 =
    if visit.batch.any (breaksOff setting) then .panicked Fanout.tooManyPermits else .done
  grown : ∃ part, notices (visit.after (purgerBy send s size)) = notices visit.before ++ part
  fit : visit.batch.any (breaksOff setting) = false → Bracketed made send size visit
  unfit : visit.batch.any (breaksOff setting) = true →
    visit.told (purgerBy send s size) notices = bracket visit.kind []

theorem visit_notices (failures : List (String × Fault))
    (told : notices (handleBy send s size visit.kind visit.batch
        (Ledger.note (.enter visit.kind) visit.before).2).2 =
      notices (Ledger.note (.enter visit.kind) visit.before).2 ++
        failures.map fun x => .failed x.1 x.2) :
    notices (visit.after (purgerBy send s size)) =
      notices visit.before ++ bracket visit.kind failures :=
  Ledger.within_notices (scope?_eq visit.kind) told

theorem visit_told (tells : send.Tells setting made) (nonempty : visit.batch ≠ [])
    (own : ∀ inv ∈ visit.batch, inv.kind = visit.kind) :
    VisitTold setting made send size visit := by
  cases fit : visit.batch.any (breaksOff setting) with
  | false =>
      obtain ⟨done, failures, perm, told⟩ := handleBy_reports tells size
        (l := (Ledger.note (.enter visit.kind) visit.before).2) nonempty own fit
      have grown := visit_notices failures told
      refine ⟨?_, ⟨_, grown⟩, fun _ => ⟨failures, perm, Purger.Visit.told_eq grown⟩, ?_⟩
      · rw [fit]
        exact done
      · rw [fit]
        nofun
  | true =>
      obtain ⟨panicked, told⟩ := handleBy_refused tells size
        (l := (Ledger.note (.enter visit.kind) visit.before).2) own fit
      have grown := visit_notices [] (told.trans (List.append_nil _).symm)
      refine ⟨?_, ⟨_, grown⟩, ?_, fun _ => Purger.Visit.told_eq grown⟩
      · rw [fit]
        exact panicked
      · rw [fit]
        nofun

end Visits

/-- How the visits of a dispatch are told. If no handler breaks off, there is one bracket for each
kind that occurs, with all its failures. Otherwise the first kind whose handler breaks off is the
last one to be told of, and no failure of it is told. -/
structure Observed (setting : Nat) (made : Making s) (send : Sender ε) (size : Nat)
    (invs : List Invalidation) (l : Ledger ε) (visits : List (Purger.Visit (Ledger ε))) :
    Prop extends Purger.Recorded (purgerBy send s size) notices invs l visits where
  fit : (∀ inv ∈ invs, breaksOff setting inv = false) →
    ((purgerBy send s size).dispatch invs l).1.2 = .done ∧
      visits.map (·.kind) = Purger.occurring Kind.all invs ∧
      ∀ visit ∈ visits, Bracketed made send size visit
  unfit : (∃ inv ∈ invs, breaksOff setting inv = true) →
    ((purgerBy send s size).dispatch invs l).1.2 = .panicked Fanout.tooManyPermits ∧
      ∃ front last later, visits = front ++ [last] ∧
        Purger.occurring Kind.all invs = front.map (·.kind) ++ last.kind :: later ∧
        (∀ visit ∈ front,
          visit.batch.any (breaksOff setting) = false ∧ Bracketed made send size visit) ∧
        last.batch.any (breaksOff setting) = true ∧
        last.told (purgerBy send s size) notices = bracket last.kind []

theorem dispatch_observed {setting : Nat} {made : Making s} {send : Sender ε}
    (tells : send.Tells setting made) (size : Nat) (invs : List Invalidation) (l : Ledger ε) :
    ∃ visits, Observed setting made send size invs l visits := by
  have supported : ∀ inv ∈ invs, inv.kind ∈ (purgerBy send s size).supported :=
    fun inv _ => inv.kind.mem_all
  obtain ⟨visits, routed, recorded⟩ := Purger.dispatch_visits _ supported l
  have each (visit) (inside : visit ∈ visits) : VisitTold setting made send size visit :=
    visit_told tells (routed.batches visit inside).2 fun _ among =>
      ((routed.mem_batch inside).mp among).2
  have answers (visit) (inside : visit ∈ visits) := (each visit inside).answer
  refine ⟨visits, routed.record recorded fun visit inside => (each visit inside).grown,
    fun fit => ?_, ?_⟩
  · obtain ⟨done, kinds⟩ := routed.of_quiet answers fit
    refine ⟨done, kinds, fun visit inside => (each visit inside).fit (List.any_eq_false.mpr ?_)⟩
    intro inv among
    exact Bool.eq_false_iff.mp (fit inv ((routed.mem_batch inside).mp among).1)
  · rintro ⟨inv, among, breaks⟩
    obtain ⟨panicked, front, last, later, rfl, kinds, quiet, loud⟩ :=
      routed.of_loud answers among breaks
    obtain ⟨before, now⟩ := List.forall_mem_append.mp each
    exact ⟨panicked, front, last, later, rfl, kinds,
      fun visit inside => ⟨quiet visit inside, (before visit inside).fit (quiet visit inside)⟩,
      loud, (now last List.mem_cons_self).unfit loud⟩

section First
variable {setting : Nat} {made : Making s} {send : Sender ε} {size : Nat}
  {invs : List Invalidation} {l : Ledger ε} {visits : List (Purger.Visit (Ledger ε))}
  (observed : Observed setting made send size invs l visits) {kind : Kind}
include observed

/-- If only one kind occurs, then there is one bracket. -/
theorem Observed.only (fit : ∀ inv ∈ invs, breaksOff setting inv = false)
    (occurs : Purger.occurring Kind.all invs = [kind]) :
    ∃ failures : List (String × Fault), failures.Perm (Fanout.failures
        (made.attempts size kind (Invalidation.ofKind kind invs) l.outside)) ∧
      notices ((purgerBy send s size).dispatch invs l).2 =
        notices l ++ bracket kind failures := by
  obtain ⟨-, kinds, bracketed⟩ := observed.fit fit
  obtain ⟨visit, rfl, rfl⟩ := List.map_eq_singleton_iff.mp (kinds.trans occurs)
  obtain ⟨same, told⟩ := observed.toRecorded.single
  obtain ⟨failures, perm, own⟩ := bracketed visit List.mem_cons_self
  refine ⟨failures, ?_, told.trans (congrArg _ own)⟩
  rwa [same] at perm

/-- If the first kind that occurs is refused, then nothing else is told of. -/
theorem Observed.refused {later : List Kind}
    (occurs : Purger.occurring Kind.all invs = kind :: later)
    (breaks : (Invalidation.ofKind kind invs).any (breaksOff setting) = true) :
    ((purgerBy send s size).dispatch invs l).1.2 = .panicked Fanout.tooManyPermits ∧
      notices ((purgerBy send s size).dispatch invs l).2 = notices l ++ bracket kind [] := by
  obtain ⟨inv, among, broken⟩ := List.any_eq_true.mp breaks
  obtain ⟨panicked, front, last, others, rfl, kinds, quiet, -, silent⟩ :=
    observed.unfit ⟨inv, (List.mem_filter.mp among).1, broken⟩
  rw [occurs] at kinds
  refine ⟨panicked, ?_⟩
  cases front with
  | nil =>
      obtain rfl : kind = last.kind := (List.cons.inj kinds).1
      exact observed.toRecorded.single.2.trans (congrArg _ silent)
  | cons visit rest =>
      obtain rfl : kind = visit.kind := (List.cons.inj kinds).1
      have fit := (quiet visit List.mem_cons_self).1
      rw [observed.batches visit List.mem_cons_self, breaks] at fit
      cases fit

end First
end CachePurge.Fleet
