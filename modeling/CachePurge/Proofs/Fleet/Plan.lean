import CachePurge.Proofs.Fleet.Tries
import CachePurge.Proofs.Groups
import CachePurge.Proofs.Invalidation.Advance

/-!
What is sent for a list of invalidations, kind by kind, and the verdict on each of them once that
was tried. Invalidations are told apart by their places in the list.
-/

namespace CachePurge.Fleet

/-- An invalidation and its place. -/
abbrev Placed := Invalidation × Nat

/-- Whether anything can be sent for an invalidation. -/
def isAdmissible (inv : Invalidation) : Bool :=
  match inv.kind with
  | .tag => isSendable inv
  | .url | .wildcardUrl => isRoutable inv.expression
  | .everything => true

/-- Whether an invalidation makes its handler fan something out. -/
def fansOut (inv : Invalidation) : Bool :=
  match inv.kind with
  | .tag => isSendable inv
  | .url | .wildcardUrl => true
  | .everything => false

def tagErrand (site : String) (group : List Placed) (address : String) : Errand :=
  let tags := group.map fun x => x.1.expression
  ⟨.tags (group.map (·.2)), address, tagRequest site (tags.map (Tag.digest site)) tags address⟩

/-- A group of tags whose digests may be made for another site than the one that is named. -/
def saltedErrand (salt site : String) (group : List Placed) (address : String) : Errand :=
  let tags := group.map fun x => x.1.expression
  ⟨.tags (group.map (·.2)), address, tagRequest site (tags.map (Tag.digest salt)) tags address⟩

def pageErrand (m : PageMethod) (kind : Kind) (site : String) (x : Placed) (address : String) :
    Errand :=
  ⟨.page kind x.1.id, address, pageRequest m site x.1.expression address⟩

def siteErrand (site address : String) : Errand :=
  ⟨.site, address, siteRequest site address⟩

/-- The tags of a batch that can be sent, as they travel together. -/
def tagGroups (pace : Pace) (batch : List Placed) : List (List Placed) :=
  groupsOf pace.groupSize (batch.filter fun x => isSendable x.1)

def pageErrands (m : PageMethod) (kind : Kind) (site : String) (addresses : List String)
    (batch : List Placed) : List Errand :=
  (batch.filter fun x => isRoutable x.1.expression).flatMap fun x =>
    addresses.map (pageErrand m kind site x)

/-- How pages of a kind are purged. -/
def pageMethod? : Kind → Option PageMethod
  | .url => some exact
  | .wildcardUrl => some pattern
  | .tag | .everything => none

/-- What is sent for a batch of one kind. -/
def batchErrands (pace : Pace) (site : String) (addresses : List String) (kind : Kind)
    (batch : List Placed) : List Errand :=
  match kind with
  | .tag => (tagGroups pace batch).flatMap fun group => addresses.map (tagErrand site group)
  | .url => pageErrands exact .url site addresses batch
  | .wildcardUrl => pageErrands pattern .wildcardUrl site addresses batch
  | .everything => addresses.map (siteErrand site)

def ofKind (kind : Kind) (placed : List Placed) : List Placed :=
  placed.filter fun x => x.1.kind = kind

/-- What is sent for the invalidations of some kinds; nothing for a kind that does not occur. -/
def errandsOf (pace : Pace) (site : String) (addresses : List String) (kinds : List Kind)
    (placed : List Placed) : List Errand :=
  kinds.flatMap fun kind =>
    if (ofKind kind placed).isEmpty then []
    else batchErrands pace site addresses kind (ofKind kind placed)

/-- What is sent for a mixed list. -/
def errands (pace : Pace) (site : String) (addresses : List String) (invs : List Invalidation) :
    List Errand :=
  errandsOf pace site addresses Kind.all invs.zipIdx

/-- An invalidation has succeeded if it could be sent at all, there is an edge, and every try that
was made for it was acknowledged. -/
def verdict (addresses : List String) (tries : List Try) (x : Placed) : Bool :=
  isAdmissible x.1 && !addresses.isEmpty &&
    tries.all fun t => !t.aim.concerns x.1 x.2 || t.isAcknowledged

variable {pace : Pace} {site address : String} {addresses : List String} {kind : Kind}
  {batch : List Placed} {tries more : List Try} {x : Placed}

theorem fansOut_still {inv inv' : Invalidation} (still : inv.IsStill inv') :
    fansOut inv' = fansOut inv := by
  rw [still]
  rfl

theorem any_fansOut_of_tag {invs : List Invalidation} (tags : ∀ inv ∈ invs, inv.kind = .tag) :
    invs.any fansOut = invs.any isSendable := by
  rw [Bool.eq_iff_iff, List.any_eq_true, List.any_eq_true]
  exact exists_congr fun inv => and_congr_right fun among => by rw [fansOut, tags inv among]

theorem verdict_iff : verdict addresses tries x = true ↔
    isAdmissible x.1 = true ∧ addresses ≠ [] ∧
      ∀ t ∈ tries, t.aim.concerns x.1 x.2 = true → t.isAcknowledged = true := by
  rw [verdict, Bool.and_eq_true, Bool.and_eq_true, Bool.not_eq_true', List.isEmpty_eq_false_iff,
    List.all_eq_true, and_assoc]
  refine and_congr_right fun _ => and_congr_right fun _ => forall_congr' fun t => ?_
  cases t.aim.concerns x.1 x.2 <;> simp

theorem verdict_of_not_isAdmissible (unfit : isAdmissible x.1 = false) :
    verdict addresses tries x = false := by
  rw [verdict, unfit, Bool.false_and, Bool.false_and]

theorem verdict_append_left (others : ∀ t ∈ more, t.aim.concerns x.1 x.2 = false) :
    verdict addresses (tries ++ more) x = verdict addresses tries x := by
  have none : (more.all fun t => !t.aim.concerns x.1 x.2 || t.isAcknowledged) = true :=
    List.all_eq_true.mpr fun t inside => by rw [others t inside]; rfl
  rw [verdict, List.all_append, none, Bool.and_true, verdict]

theorem verdict_append_right (others : ∀ t ∈ tries, t.aim.concerns x.1 x.2 = false) :
    verdict addresses (tries ++ more) x = verdict addresses more x := by
  have none : (tries.all fun t => !t.aim.concerns x.1 x.2 || t.isAcknowledged) = true :=
    List.all_eq_true.mpr fun t inside => by rw [others t inside]; rfl
  rw [verdict, List.all_append, none, Bool.true_and, verdict]

theorem kind_of_mem_batchErrands {errand : Errand}
    (member : errand ∈ batchErrands pace site addresses kind batch) : errand.aim.kind = kind := by
  cases kind with
  | tag | url | wildcardUrl =>
      obtain ⟨_, -, sent⟩ := List.mem_flatMap.mp member
      obtain ⟨_, -, rfl⟩ := List.mem_map.mp sent
      rfl
  | everything =>
      obtain ⟨_, -, rfl⟩ := List.mem_map.mp member
      rfl

theorem address_of_mem_batchErrands {errand : Errand}
    (member : errand ∈ batchErrands pace site addresses kind batch) :
    errand.address ∈ addresses := by
  cases kind with
  | tag | url | wildcardUrl =>
      obtain ⟨_, -, sent⟩ := List.mem_flatMap.mp member
      obtain ⟨_, among, rfl⟩ := List.mem_map.mp sent
      exact among
  | everything =>
      obtain ⟨_, among, rfl⟩ := List.mem_map.mp member
      exact among

theorem mem_errandsOf {kinds : List Kind} {placed : List Placed} {errand : Errand} :
    errand ∈ errandsOf pace site addresses kinds placed ↔
      ∃ kind ∈ kinds, ofKind kind placed ≠ [] ∧
        errand ∈ batchErrands pace site addresses kind (ofKind kind placed) := by
  rw [errandsOf, List.mem_flatMap]
  refine exists_congr fun kind => and_congr_right fun _ => ?_
  cases h : ofKind kind placed <;> simp

theorem kind_of_mem_errandsOf {kinds : List Kind} {errand : Errand}
    (member : errand ∈ errandsOf pace site addresses kinds batch) : errand.aim.kind ∈ kinds := by
  obtain ⟨kind, among, -, sent⟩ := mem_errandsOf.mp member
  rwa [kind_of_mem_batchErrands sent]

theorem concerns_of_kind_ne {aim : Aim} {inv : Invalidation} (other : inv.kind ≠ aim.kind)
    (place : Nat) : aim.concerns inv place = false := by
  simp only [Aim.concerns, decide_eq_false other, Bool.false_and]

theorem exists_mem_batchErrands (pace : Pace) (site : String) (inside : x ∈ batch)
    (fit : isAdmissible x.1 = true) (among : address ∈ addresses) :
    ∃ errand ∈ batchErrands pace site addresses x.1.kind batch,
      errand.address = address ∧ errand.aim.concerns x.1 x.2 = true := by
  have page (m : PageMethod) (same : isRoutable x.1.expression = true) :
      ∃ errand ∈ pageErrands m x.1.kind site addresses batch,
        errand.address = address ∧ errand.aim.concerns x.1 x.2 = true := by
    refine ⟨pageErrand m x.1.kind site x address, List.mem_flatMap.mpr ⟨x, ?_, ?_⟩, rfl, ?_⟩
    · exact List.mem_filter.mpr ⟨inside, same⟩
    · exact List.mem_map_of_mem among
    · simp only [pageErrand, Aim.concerns, Aim.kind, decide_true, Bool.and_self]
  rw [isAdmissible] at fit
  cases hk : x.1.kind with
  | tag =>
      rw [hk] at fit
      have sendable : x ∈ (tagGroups pace batch).flatten := by
        rw [tagGroups, flatten_groupsOf]
        exact List.mem_filter.mpr ⟨inside, fit⟩
      obtain ⟨group, member, found⟩ := List.mem_flatten.mp sendable
      refine ⟨tagErrand site group address, List.mem_flatMap.mpr ⟨group, member, ?_⟩, rfl, ?_⟩
      · exact List.mem_map_of_mem among
      · simp only [tagErrand, Aim.concerns, Aim.kind, hk, decide_true, Bool.true_and,
          List.contains_iff_mem]
        exact List.mem_map_of_mem found
  | url =>
      rw [hk] at fit page
      exact page exact fit
  | wildcardUrl =>
      rw [hk] at fit page
      exact page pattern fit
  | everything =>
      refine ⟨siteErrand site address, List.mem_map_of_mem among, rfl, ?_⟩
      simp only [siteErrand, Aim.concerns, Aim.kind, hk, decide_true, Bool.and_self]

theorem exists_mem_errands (pace : Pace) (site : String) {invs : List Invalidation} {i : Nat}
    {inv : Invalidation} (at_i : invs[i]? = some inv) (fit : isAdmissible inv = true)
    (among : address ∈ addresses) :
    ∃ errand ∈ errands pace site addresses invs,
      errand.address = address ∧ errand.aim.concerns inv i = true := by
  have inside : (inv, i) ∈ ofKind inv.kind invs.zipIdx :=
    List.mem_filter.mpr ⟨List.mem_zipIdx_iff_getElem?.mpr at_i, decide_eq_true rfl⟩
  obtain ⟨errand, sent, found⟩ :=
    exists_mem_batchErrands pace site inside fit among
  exact ⟨errand, mem_errandsOf.mpr
    ⟨inv.kind, Kind.mem_all inv.kind, List.ne_nil_of_mem inside, sent⟩, found⟩

theorem address_of_mem_errands {invs : List Invalidation} {errand : Errand}
    (member : errand ∈ errands pace site addresses invs) : errand.address ∈ addresses := by
  obtain ⟨_, -, -, sent⟩ := mem_errandsOf.mp member
  exact address_of_mem_batchErrands sent

/-- Pages that share no id are concerned by their own requests only. -/
theorem request_of_concerns {invs : List Invalidation} (distinct : (invs.map (·.id)).Nodup)
    {i : Nat} {inv : Invalidation} (at_i : invs[i]? = some inv) {m : PageMethod}
    (page : pageMethod? inv.kind = some m) {errand : Errand}
    (sent : errand ∈ errands pace site addresses invs)
    (concerns : errand.aim.concerns inv i = true) :
    errand.request = pageRequest m site inv.expression errand.address := by
  have own (y : Placed) (inside : y ∈ invs.zipIdx) (same : inv.id = y.1.id) : y.1 = inv := by
    have at_j : invs[y.2]? = some y.1 := List.mem_zipIdx_iff_getElem?.mp inside
    have index : i = y.2 := by
      have bound : i < (invs.map (·.id)).length := by
        rw [List.length_map]
        exact (List.getElem?_eq_some_iff.mp at_i).1
      refine (List.getElem?_inj bound distinct).mp ?_
      rw [List.getElem?_map, List.getElem?_map, at_i, at_j, Option.map_some, Option.map_some, same]
    rw [← index, at_i, Option.some_inj] at at_j
    exact at_j.symm
  have from_page (kind : Kind)
      (sent : errand ∈ pageErrands m kind site addresses (ofKind kind invs.zipIdx)) :
      errand.request = pageRequest m site inv.expression errand.address := by
    obtain ⟨y, inside, sent⟩ := List.mem_flatMap.mp sent
    obtain ⟨address, -, rfl⟩ := List.mem_map.mp sent
    simp only [pageErrand, Aim.concerns, Bool.and_eq_true, decide_eq_true_eq] at concerns
    rw [← own y (List.mem_filter.mp (List.mem_filter.mp inside).1).1 concerns.2]
    rfl
  obtain ⟨kind, -, -, sent⟩ := mem_errandsOf.mp sent
  have same : inv.kind = kind := by
    rw [← kind_of_mem_batchErrands sent]
    simp only [Aim.concerns, Bool.and_eq_true, decide_eq_true_eq] at concerns
    exact concerns.1
  rw [same] at page
  cases kind with
  | tag | everything => cases page
  | url | wildcardUrl =>
      cases page
      exact from_page _ sent

end CachePurge.Fleet
