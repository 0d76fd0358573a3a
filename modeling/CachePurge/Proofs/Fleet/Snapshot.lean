import CachePurge.Proofs.Fleet.Counting
import CachePurge.Proofs.Fleet.TagRequest

/-!
When a dispatch works on one snapshot of the platform. The handler for each kind reads the platform
anew, and that for tags reads the site twice; so all requests are those of one snapshot only if all
these readings come to the same.
-/

namespace CachePurge.Fleet

variable {ε : Type} {pace : Pace} {placed : List Placed}

/-- Digests and site in a request for tags are those that its handler was told, each by itself. -/
theorem Reading.headers_of_mem_share {told : Reading} {errand : Errand}
    (member : errand ∈ told.share pace .tag placed) {request : Http.Request}
    (built : errand.request = .ok request) :
    ∃ tags, request.headers.lookup "x-purge-tags" =
        some (joined (tags.map (Tag.digest told.salt))) ∧
      request.headers.lookup "x-purge-tags-full" = some (joined tags) ∧
      request.headers.lookup "x-purge-site" = some told.site := by
  rw [Reading.share] at member
  split at member
  · cases member
  · obtain ⟨group, -, sent⟩ := List.mem_flatMap.mp member
    obtain ⟨address, -, rfl⟩ := List.mem_map.mp sent
    refine ⟨group.map fun x => x.1.expression, ?_⟩
    rw [headers_of_tagRequest built]
    exact ⟨rfl, rfl, rfl⟩

/-- A request for tags that might be one of a snapshot has the digests made for its site. -/
theorem digests_of_saltedErrand {salt site site' address address' : String}
    {group group' : List Placed} {request : Http.Request}
    (same : saltedErrand salt site group address = tagErrand site' group' address')
    (built : (saltedErrand salt site group address).request = .ok request) :
    site = site' ∧ joined ((group.map fun x => x.1.expression).map (Tag.digest salt)) =
      joined ((group'.map fun x => x.1.expression).map (Tag.digest site')) := by
  have told := headers_of_tagRequest built
  rw [same] at built
  rw [headers_of_tagRequest built] at told
  simp only [List.cons.injEq, Prod.mk.injEq, true_and, and_true] at told
  obtain ⟨digests, -, named⟩ := told
  exact ⟨named.symm, digests.symm⟩

/-- The requests of a dispatch are planned by what the handler for each kind is told when it starts.
They are the requests of one snapshot just if those for each kind are. That holds up to the limit of
concurrency, and for any setting if there is nothing to be fanned out; otherwise nothing is sent. -/
theorem dispatch_reads (s : Surroundings ε) (pace : Pace) (invs : List Invalidation)
    (l : Ledger ε) :
    let run := (purger s pace).dispatch invs l
    let told := toldIn s pace Kind.all invs l
    ((pace.concurrency ≤ Fanout.maxConcurrency ∨ ∀ inv ∈ invs, fansOut inv = false) →
      run.1.2 = .done ∧ ∃ tries : List Try, Charges s l run.2 tries ∧
        tries.map (·.toErrand) = errandsBy pace told Kind.all invs.zipIdx ∧
        (∀ t ∈ tries, t.aim.kind = .tag → ∀ request, t.request = .ok request →
          ∃ tags, request.headers.lookup "x-purge-tags" =
              some (joined (tags.map (Tag.digest (told .tag).salt))) ∧
            request.headers.lookup "x-purge-tags-full" = some (joined tags) ∧
            request.headers.lookup "x-purge-site" = some (told .tag).site) ∧
        ∀ site addresses, tries.map (·.toErrand) = errands pace site addresses invs ↔
          ∀ kind, (told kind).share pace kind invs.zipIdx =
            (Reading.snapshot site addresses).share pace kind invs.zipIdx) ∧
    (Fanout.maxConcurrency < pace.concurrency → (∃ inv ∈ invs, fansOut inv = true) →
      run.1.2 = .panicked Fanout.tooManyPermits ∧ Charges s l run.2 []) := by
  intro run told
  have handled : run = (purger s pace).dispatchKinds Kind.all none invs l := by
    rw [← dispatch_eq]
  rw [handled]
  constructor
  · intro fit
    obtain ⟨done, tries, planned, sent⟩ :=
      dispatchKinds_reads (s := s) (l := l) Kind.nodup_all fit
    refine ⟨done, tries, sent, planned, fun t inside tag request built => ?_,
      fun site addresses => ?_⟩
    · have own : t.toErrand ∈ (told .tag).share pace .tag invs.zipIdx := by
        rw [← filter_errandsBy Kind.nodup_all (Kind.mem_all .tag), ← planned]
        exact List.mem_filter.mpr ⟨List.mem_map_of_mem inside, decide_eq_true tag⟩
      exact Reading.headers_of_mem_share own built
    · rw [planned, errands, ← errandsBy_snapshot, errandsBy_eq_iff Kind.nodup_all]
      exact ⟨fun same kind => same kind kind.mem_all, fun same kind _ => same kind⟩
  · rintro beyond ⟨inv, inside, fans⟩
    exact dispatchKinds_of_lt beyond (by decide) inside inv.kind.mem_all fans

/-- A platform of one node that takes another name as soon as it has told the first. -/
def fickle : Surroundings Bool where
  edgeAddresses := return ["10.0.0.1"]
  siteIdentifier := fun renamed => (if renamed then "site-b" else "site-a", true)
  vendorSettings := return none
  now := return 0
  deliver _ := return ⟨false, 0, .silence⟩

/-- The tag is banned for one site by a digest made for another, which no snapshot does. -/
theorem dispatch_reads_fickle :
    let invs := [Invalidation.ofId 0 .tag "a"]
    let run := (purger fickle ⟨15, 6⟩).dispatch invs (.start false)
    run.1.2 = .done ∧ ∃ t request, Charges fickle (.start false) run.2 [t] ∧
      t.request = .ok request ∧
      request.headers.lookup "x-purge-tags" = some (Tag.digest "site-a" "a") ∧
      request.headers.lookup "x-purge-site" = some "site-b" ∧
      ∀ site addresses, [t.toErrand] ≠ errands ⟨15, 6⟩ site addresses invs := by
  intro invs run
  obtain ⟨done, tries, sent, planned, -, snapshot⟩ :=
    (dispatch_reads fickle ⟨15, 6⟩ invs (.start false)).1 (.inl (by decide))
  have told : toldIn fickle ⟨15, 6⟩ Kind.all invs (.start false) .tag =
      ⟨"site-a", ["10.0.0.1"], "site-b"⟩ := toldIn_self
  have group : tagGroups ⟨15, 6⟩ (ofKind .tag invs.zipIdx) = [[(.ofId 0 .tag "a", 0)]] := by
    have only : (ofKind .tag invs.zipIdx).filter (fun x => isSendable x.1) =
        [(.ofId 0 .tag "a", 0)] := by decide
    rw [tagGroups, only]
    simp [groupsOf_cons, groupsOf_nil]
  have share (told : Reading) : told.share ⟨15, 6⟩ .tag invs.zipIdx =
      told.addresses.map (saltedErrand told.salt told.site [(.ofId 0 .tag "a", 0)]) := by
    rw [Reading.share, if_neg (by decide), Reading.errands, group]
    exact List.append_nil _
  have alone : errandsBy ⟨15, 6⟩ (toldIn fickle ⟨15, 6⟩ Kind.all invs (.start false)) Kind.all
      invs.zipIdx = [saltedErrand "site-a" "site-b" [(.ofId 0 .tag "a", 0)] "10.0.0.1"] := by
    rw [errandsBy, Kind.all, List.flatMap_cons, ← Kind.all, share, told]
    rfl
  obtain ⟨t, rfl, errand⟩ := List.map_eq_singleton_iff.mp (planned.trans alone)
  obtain ⟨request, built⟩ : ∃ request, t.request = .ok request := by
    have sendable : t.request.isOk = true := by
      rw [errand]
      decide +kernel
    cases h : t.request with
    | ok request => exact ⟨request, rfl⟩
    | error fault => rw [h] at sendable; cases sendable
  have headers := headers_of_tagRequest ((congrArg Errand.request errand).symm.trans built)
  refine ⟨done, t, request, sent, built, by rw [headers]; rfl, by rw [headers]; rfl, ?_⟩
  intro site addresses same
  have tags := (snapshot site addresses).mp same .tag
  rw [share, share, told] at tags
  obtain ⟨address, -, other⟩ := List.map_eq_singleton_iff.mp tags.symm
  obtain ⟨rfl, digests⟩ := digests_of_saltedErrand other.symm (errand ▸ built)
  have apart : joined [Tag.digest "site-a" "a"] ≠ joined [Tag.digest "site-b" "a"] := by
    decide +kernel
  exact apart digests

end CachePurge.Fleet
