import CachePurge.Proofs.Fleet.Plan
import CachePurge.Proofs.Purger.Routing

/-!
What a handler is told when it reads the platform, and what it plans by that. Every handler reads
for itself, when it starts; that of tags reads the site once for the digests and once more, after
the addresses, for its requests. A snapshot is a reading with one site for both.
-/

namespace CachePurge

namespace Fleet

/-- What a handler is told by the platform. -/
structure Reading where
  /-- The site that digests of tags are made for. -/
  salt : String
  addresses : List String
  /-- The site that is named in requests. -/
  site : String
  deriving DecidableEq, Repr

def Reading.snapshot (site : String) (addresses : List String) : Reading := ⟨site, addresses, site⟩

end Fleet

open Fleet

section Surroundings
variable {ε : Type} {s : Surroundings ε}

/-- How the handler for a kind reads the platform. Whatever makes no digests has no use for a site
that they are made for. -/
def Surroundings.reading (s : Surroundings ε) : Kind → StateM ε Reading
  | .tag => do
    let salt ← s.siteIdentifier
    let addresses ← s.edgeAddresses
    let site ← s.siteIdentifier
    return ⟨salt, addresses, site⟩
  | .url | .wildcardUrl | .everything => do
    let addresses ← s.edgeAddresses
    let site ← s.siteIdentifier
    return .snapshot site addresses

/-- A steady platform tells every handler the same. -/
theorem Surroundings.Steady.reading {e : ε} {addresses : List String} {site : String}
    (steady : s.Steady e addresses site) (kind : Kind) :
    (s.reading kind e).1 = .snapshot site addresses := by
  have named {e : ε} (steady : s.Steady e addresses site) :
      (s.edgeAddresses e).1 = addresses ∧
        (s.siteIdentifier (s.edgeAddresses e).2).1 = site :=
    ⟨steady.addresses, (steady.later (.askAddresses (.rest _))).site⟩
  cases kind with
  | tag =>
      obtain ⟨given, name⟩ := named (steady.later (.askSite (.rest _)))
      simp only [Surroundings.reading, bind_apply, pure_apply, steady.site, given, name]
      rfl
  | url | wildcardUrl | everything =>
      obtain ⟨given, name⟩ := named steady
      simp only [Surroundings.reading, bind_apply, pure_apply, given, name]

end Surroundings

namespace Fleet

variable {pace : Pace} {told told' : Kind → Reading} {kind : Kind} {kinds : List Kind}
  {placed : List Placed}

/-- What is sent for a batch of one kind by whoever was told this. -/
def Reading.errands (pace : Pace) (told : Reading) (kind : Kind) (batch : List Placed) :
    List Errand :=
  match kind with
  | .tag => (tagGroups pace batch).flatMap fun group =>
      told.addresses.map (saltedErrand told.salt told.site group)
  | .url | .wildcardUrl | .everything => batchErrands pace told.site told.addresses kind batch

theorem Reading.errands_snapshot (site : String) (addresses : List String) (kind : Kind)
    (batch : List Placed) : (Reading.snapshot site addresses).errands pace kind batch =
      batchErrands pace site addresses kind batch := by
  cases kind <;> rfl

theorem Reading.kind_of_mem_errands {told : Reading} {batch : List Placed} {errand : Errand}
    (member : errand ∈ told.errands pace kind batch) : errand.aim.kind = kind := by
  cases kind with
  | tag =>
      obtain ⟨_, -, sent⟩ := List.mem_flatMap.mp member
      obtain ⟨_, -, rfl⟩ := List.mem_map.mp sent
      rfl
  | url | wildcardUrl | everything =>
      rw [Reading.errands] at member
      exact kind_of_mem_batchErrands member

/-- What is sent for the invalidations of a kind; nothing if it does not occur. -/
def Reading.share (pace : Pace) (told : Reading) (kind : Kind) (placed : List Placed) :
    List Errand :=
  if (ofKind kind placed).isEmpty then [] else told.errands pace kind (ofKind kind placed)

/-- What is sent for the invalidations of some kinds if each kind goes by a reading of its own. -/
def errandsBy (pace : Pace) (told : Kind → Reading) (kinds : List Kind) (placed : List Placed) :
    List Errand :=
  kinds.flatMap fun kind => (told kind).share pace kind placed

theorem errandsBy_snapshot (site : String) (addresses : List String) (kinds : List Kind)
    (placed : List Placed) : errandsBy pace (fun _ => .snapshot site addresses) kinds placed =
      errandsOf pace site addresses kinds placed := by
  refine List.flatMap_congr fun kind _ => ?_
  rw [Reading.share, Reading.errands_snapshot]

theorem errandsBy_congr (same : ∀ kind ∈ kinds, told kind = told' kind) :
    errandsBy pace told kinds placed = errandsBy pace told' kinds placed :=
  List.flatMap_congr fun kind among => by rw [same kind among]

theorem Reading.kind_of_mem_share {told : Reading} {errand : Errand}
    (member : errand ∈ told.share pace kind placed) : errand.aim.kind = kind := by
  rw [Reading.share] at member
  split at member
  · cases member
  · exact Reading.kind_of_mem_errands member

/-- What is sent for a kind is found among the rest by its aims. -/
theorem filter_errandsBy (distinct : kinds.Nodup) (among : kind ∈ kinds) :
    (errandsBy pace told kinds placed).filter (·.aim.kind = kind) =
      (told kind).share pace kind placed := by
  have own (other : Kind) : ((told other).share pace other placed).filter (·.aim.kind = kind) =
      if other = kind then (told other).share pace other placed else [] := by
    split
    · next same =>
        refine List.filter_eq_self.mpr fun errand inside => decide_eq_true ?_
        rw [Reading.kind_of_mem_share inside, same]
    · next differ =>
        refine List.filter_eq_nil_iff.mpr fun errand inside same => differ ?_
        rw [← Reading.kind_of_mem_share inside, of_decide_eq_true same]
  rw [errandsBy, List.filter_flatMap]
  simp only [own]
  induction kinds with
  | nil => cases among
  | cons other rest ih =>
      obtain ⟨fresh, distinct⟩ := List.nodup_cons.mp distinct
      rw [List.flatMap_cons]
      cases List.mem_cons.mp among with
      | inl same =>
          subst same
          rw [if_pos rfl, List.flatMap_eq_nil_iff.mpr, List.append_nil]
          exact fun later inside => if_neg (ne_of_mem_of_not_mem inside fresh)
      | inr later =>
          rw [if_neg (ne_of_mem_of_not_mem later fresh).symm, List.nil_append, ih distinct later]

/-- Two plans are the same just if they are for every kind. -/
theorem errandsBy_eq_iff (distinct : kinds.Nodup) :
    errandsBy pace told kinds placed = errandsBy pace told' kinds placed ↔
      ∀ kind ∈ kinds, (told kind).share pace kind placed = (told' kind).share pace kind placed := by
  constructor
  · intro same kind among
    rw [← filter_errandsBy distinct among, same, filter_errandsBy distinct among]
  · exact fun same => List.flatMap_congr same

section Dispatch
variable {ε : Type} {s : Surroundings ε} {invs : List Invalidation} {l : Ledger ε} {other : Kind}
  {rest : List Kind}

/-- What the handler for a kind is told in a dispatch. It starts where the handlers for the kinds
before have left off. -/
def toldIn (s : Surroundings ε) (pace : Pace) (kinds : List Kind) (invs : List Invalidation)
    (l : Ledger ε) (kind : Kind) : Reading :=
  let earlier := kinds.takeWhile (· ≠ kind)
  (s.reading kind ((purger s pace).dispatchKinds earlier none invs l).2.outside).1

theorem toldIn_self : toldIn s pace (kind :: rest) invs l kind = (s.reading kind l.outside).1 := by
  rw [toldIn, List.takeWhile_cons_of_neg (by simp)]
  rfl

theorem toldIn_skip (absent : Invalidation.ofKind kind invs = []) (differ : other ≠ kind) :
    toldIn s pace (kind :: rest) invs l other = toldIn s pace rest invs l other := by
  rw [toldIn, toldIn, List.takeWhile_cons_of_pos (by simp [differ.symm]),
    Purger.dispatchKinds_skip _ _ absent]

theorem toldIn_of_done {states : List State} {l₁ : Ledger ε}
    (some_ : Invalidation.ofKind kind invs ≠ []) (differ : other ≠ kind)
    (handled : (purger s pace).handle kind (Invalidation.ofKind kind invs) l =
      ((states, .done), l₁)) :
    toldIn s pace (kind :: rest) invs l other =
      toldIn s pace rest (Invalidation.advanceKind kind invs states) l₁ other := by
  rw [toldIn, toldIn, List.takeWhile_cons_of_pos (by simp [differ.symm]),
    Purger.dispatchKinds_of_done some_ handled]

end Dispatch

end Fleet
end CachePurge
