import CachePurge.Proofs.Fleet.Charges
import CachePurge.Proofs.Fleet.TagRequest
import CachePurge.Proofs.Fleet.Unanimity

/-!
What a purge of tags sends: every group of tags goes to every edge address once, group by group and
in each address by address, and nothing else goes out. Whoever reads what one address was sent finds
the tags that can be sent, all of them in their order. If more requests are to be made at once than
can be allowed, nothing is sent at all.
-/

namespace CachePurge.Fleet

variable {ε : Type}

/-- A try for a group of tags at an address. It comes to a request just when the address can be read
and the site's name may stand in a header. -/
structure TriesTags (site : String) (tags : List String) (address : String) (t : Try) : Prop where
  given : t.address = address
  bans : ∀ host port, parseAddress address = .ok (host, port) → Header.isValue site = true →
    ∃ request, t.request = .ok request ∧ BansTags site (host ++ Url.portText port) tags request
  unbuilt : (∀ place, parseAddress address ≠ .ok place) ∨ Header.isValue site = false →
    ∃ fault, t.request = .error fault

/-- What a header of the request lists between blanks; nothing, if there is no request. -/
def Try.listed (header : String) (t : Try) : List String :=
  match t.request with
  | .ok request => ((request.headers.lookup header).map Tag.tokens).getD []
  | .error _ => []

/-- The lists that one entry of the address list was sent, one after the other. -/
def listedAt (header : String) (rows : List (List Try)) (entry : Nat) : List String :=
  rows.flatMap fun row => (row[entry]?.map (Try.listed header)).getD []

/-- Between two ledgers each group of tags was tried at each entry of an address list, with a row of
tries for each group, and nothing else was sent. -/
structure Covers (s : Surroundings ε) (site : String) (addresses : List String)
    (groups : List (List String)) (l l' : Ledger ε) (rows : List (List Try)) : Prop where
  tried : List.Forall₂ (fun tags row => List.Forall₂ (TriesTags site tags) addresses row) groups
    rows
  runs : Runs s l l' rows.flatten

theorem triesTags_of_errand {site address : String} {group : List Placed} {t : Try}
    (errand : t.toErrand = tagErrand site group address) (nonempty : group ≠ [])
    (valid : ∀ x ∈ group, isSendable x.1 = true) :
    TriesTags site (group.map fun x => x.1.expression) address t := by
  obtain ⟨own, delivery⟩ := t
  obtain rfl : own = _ := errand
  refine ⟨rfl, fun host port read legal => ?_, fun unfit => tagRequest_unbuilt unfit _ _⟩
  apply tagRequest_bans read legal (mt List.map_eq_nil_iff.mp nonempty)
  exact List.forall_mem_map.mpr fun x inside => valid x inside

/-- What comes of a list part by part can be cut into the parts. -/
theorem exists_rows {α β γ : Type} {f : α → β} {parts : γ → List β} {things : List γ} {all : List α}
    (planned : all.map f = things.flatMap parts) :
    ∃ rows, rows.flatten = all ∧ List.Forall₂ (fun x row => row.map f = parts x) things rows := by
  induction things generalizing all with
  | nil => exact ⟨[], (List.map_eq_nil_iff.mp planned).symm, .nil⟩
  | cons x rest ih =>
      rw [List.flatMap_cons] at planned
      obtain ⟨row, more, rfl, own, later⟩ := List.map_eq_append_iff.mp planned
      obtain ⟨rows, rfl, each⟩ := ih later
      exact ⟨row :: rows, rfl, .cons own each⟩

section Listed
variable {site address : String} {tags : List String} {t : Try}

theorem TriesTags.listed_raw (tries : TriesTags site tags address t) {host : String}
    {port : Option UInt16} (read : parseAddress address = .ok (host, port))
    (legal : Header.isValue site = true) : t.listed "x-purge-tags-full" = tags := by
  obtain ⟨request, built, bans⟩ := tries.bans host port read legal
  rw [Try.listed, built]
  simp only [bans.raw, Option.getD_some]

theorem TriesTags.listed_digests (tries : TriesTags site tags address t) {host : String}
    {port : Option UInt16} (read : parseAddress address = .ok (host, port))
    (legal : Header.isValue site = true) :
    t.listed "x-purge-tags" = tags.map (Tag.digest site) := by
  obtain ⟨request, built, bans⟩ := tries.bans host port read legal
  rw [Try.listed, built]
  simp only [bans.digests, Option.getD_some]

/-- What a try lists, it lists of its own group. -/
theorem TriesTags.mem_listed (tries : TriesTags site tags address t) {text : String} :
    (text ∈ t.listed "x-purge-tags-full" → text ∈ tags) ∧
      (text ∈ t.listed "x-purge-tags" → text ∈ tags.map (Tag.digest site)) := by
  by_cases fit : (∃ place, parseAddress address = .ok place) ∧ Header.isValue site = true
  · obtain ⟨⟨⟨host, port⟩, read⟩, legal⟩ := fit
    rw [tries.listed_raw read legal, tries.listed_digests read legal]
    exact ⟨id, id⟩
  · have unfit : (∀ place, parseAddress address ≠ .ok place) ∨ Header.isValue site = false := by
      rcases not_and_or.mp fit with unread | illegal
      · exact .inl (not_exists.mp unread)
      · exact .inr (Bool.eq_false_iff.mpr illegal)
    obtain ⟨fault, unbuilt⟩ := tries.unbuilt unfit
    simp [Try.listed, unbuilt]

end Listed

namespace Covers
variable {s : Surroundings ε} {site address : String} {addresses : List String}
  {groups : List (List String)} {l l' : Ledger ε} {rows : List (List Try)}

theorem listedAt_eq (covers : Covers s site addresses groups l l' rows) {header : String}
    (lists : List String → List String)
    (each : ∀ tags t, TriesTags site tags address t → t.listed header = lists tags) {entry : Nat}
    (at_entry : addresses[entry]? = some address) :
    listedAt header rows entry = groups.flatMap lists := by
  obtain ⟨tried, -⟩ := covers
  induction tried with
  | nil => rfl
  | cons row _ ih =>
      have length := row.length_eq
      obtain ⟨bound, own⟩ := List.getElem?_eq_some_iff.mp at_entry
      have tries := row.get bound (length ▸ bound)
      rw [List.get_eq_getElem, List.get_eq_getElem, own] at tries
      rw [listedAt, List.flatMap_cons, List.flatMap_cons, List.getElem?_eq_getElem (length ▸ bound)]
      exact congrArg₂ (· ++ ·) (each _ _ tries) ih

theorem listed_of_mem (covers : Covers s site addresses groups l l' rows) {t : Try}
    (inside : t ∈ rows.flatten) : ∃ tags ∈ groups, ∃ address, TriesTags site tags address t := by
  obtain ⟨row, among, member⟩ := List.mem_flatten.mp inside
  obtain ⟨i, bound, rfl⟩ := List.mem_iff_getElem.mp among
  have own := covers.tried.get (covers.tried.length_eq ▸ bound) bound
  obtain ⟨j, bound', rfl⟩ := List.mem_iff_getElem.mp member
  exact ⟨_, List.getElem_mem _, _, own.get (own.length_eq ▸ bound') bound'⟩

end Covers

section Handler
variable {s : Surroundings ε} {pace : Pace} {l : Ledger ε} {addresses : List String} {site : String}

theorem tagGroups_expressions (pace : Pace) (batch : List Invalidation) :
    (tagGroups pace batch.zipIdx).map (List.map fun x => x.1.expression) =
      groupsOf pace.groupSize ((batch.filter isSendable).map (·.expression)) := by
  rw [tagGroups, ← groupsOf_map]
  conv_rhs => rw [← List.zipIdx_map_fst 0 batch, List.filter_map, List.map_map]
  rfl

theorem handle_tag_covers (steady : s.Steady l.outside addresses site)
    (within : pace.concurrency ≤ Fanout.maxConcurrency) (batch : List Invalidation) :
    ((purger s pace).handle .tag batch l).1.2 = .done ∧
      ∃ rows, Covers s site addresses
        (groupsOf pace.groupSize ((batch.filter isSendable).map (·.expression))) l
        ((purger s pace).handle .tag batch l).2 rows := by
  obtain ⟨done, tries, planned, sent⟩ :=
    purgeTags_charges (s := s) (l := (Ledger.note (.enter .tag) l).2) steady batch.zipIdx
      (.inl within)
  rw [List.zipIdx_map_fst] at done sent
  obtain ⟨rows, rfl, each⟩ := exists_rows planned
  refine ⟨done, rows, ?_, (charges_within sent).toRuns⟩
  rw [← tagGroups_expressions, List.forall₂_map_left_iff]
  have valid : ∀ group ∈ tagGroups pace batch.zipIdx,
      group ≠ [] ∧ ∀ x ∈ group, isSendable x.1 = true := by
    intro group among
    obtain ⟨i, at_i⟩ := List.mem_iff_getElem?.mp among
    refine ⟨(length_of_groupsOf at_i).1, fun x inside => ?_⟩
    have sendable := List.mem_flatten_of_mem among inside
    rw [flatten_tagGroups] at sendable
    exact (List.mem_filter.mp sendable).2
  refine ((List.forall₂_and_left _ _).mpr ⟨valid, each⟩).imp ?_
  rintro group row ⟨⟨nonempty, valid⟩, own⟩
  have errands : List.Forall₂ (fun address t => t.toErrand = tagErrand site group address)
      addresses row := by
    rw [← List.forall₂_eq_eq_eq, List.forall₂_map_left_iff, List.forall₂_map_right_iff] at own
    exact own.flip
  exact errands.imp fun address t errand => triesTags_of_errand errand nonempty valid

theorem handle_tag_of_lt (beyond : Fanout.maxConcurrency < pace.concurrency)
    (batch : List Invalidation) :
    ((purger s pace).handle .tag batch l).1.2 =
        (if batch.any isSendable then .panicked Fanout.tooManyPermits else .done) ∧
      Runs s l ((purger s pace).handle .tag batch l).2 [] := by
  obtain ⟨ending, sent⟩ :=
    purgeTags_of_lt (s := s) (l := (Ledger.note (.enter .tag) l).2) beyond batch
  exact ⟨ending, (charges_within sent).toRuns⟩

end Handler

theorem isValid_of_isKey {key : String} (own : Tag.IsKey key) : Tag.isValid key = true :=
  List.all_eq_true.mpr (own.of_all (by decide))

/-- A purge of tags tries every group of the tags that can be sent at every entry of the address
list, and sends nothing else; what it sends to one entry lists all these tags in their order, and no
other. That holds up to the limit of concurrency, beyond which nothing is tried at all. -/
theorem purgeTags_covers (s : Surroundings ε) (pace : Pace) (batch : List Invalidation)
    (l : Ledger ε) {addresses : List String} {site : String}
    (steady : s.Steady l.outside addresses site) :
    let run := (purger s pace).handle .tag batch l
    let tags := (batch.filter isSendable).map (·.expression)
    let groups := groupsOf pace.groupSize tags
    (groups.flatten = tags ∧ ∀ i group, groups[i]? = some group →
      group ≠ [] ∧ group.length ≤ max pace.groupSize 1 ∧
        (i + 1 < groups.length → group.length = max pace.groupSize 1)) ∧
    (pace.concurrency ≤ Fanout.maxConcurrency → run.1.2 = .done ∧
      ∃ rows, Covers s site addresses groups l run.2 rows ∧
        (∀ entry address host port, addresses[entry]? = some address →
          parseAddress address = .ok (host, port) → Header.isValue site = true →
          listedAt "x-purge-tags-full" rows entry = tags ∧
            listedAt "x-purge-tags" rows entry = tags.map (Tag.digest site)) ∧
        ∀ inv ∈ batch, isSendable inv = false → ∀ t ∈ rows.flatten,
          inv.expression ∉ t.listed "x-purge-tags-full" ∧
            inv.expression ∉ t.listed "x-purge-tags") ∧
    (Fanout.maxConcurrency < pace.concurrency →
      run.1.2 = (if batch.any isSendable then .panicked Fanout.tooManyPermits else .done) ∧
        Runs s l run.2 []) := by
  intro run tags groups
  have flatten : groups.flatten = tags := flatten_groupsOf pace.groupSize tags
  refine ⟨⟨flatten, fun i group => length_of_groupsOf⟩, fun within => ?_,
    fun beyond => handle_tag_of_lt beyond batch⟩
  obtain ⟨done, rows, covers⟩ := handle_tag_covers steady within batch
  refine ⟨done, rows, covers, ?_, ?_⟩
  · intro entry address host port at_entry read legal
    have raw := covers.listedAt_eq id
      (fun _ _ tries => tries.listed_raw read legal) at_entry
    have digests := covers.listedAt_eq (List.map (Tag.digest site))
      (fun _ _ tries => tries.listed_digests read legal) at_entry
    rw [List.flatMap_id, flatten] at raw
    rw [List.flatMap_def, ← List.map_flatten, flatten] at digests
    exact ⟨raw, digests⟩
  · intro inv _ rejected t inside
    obtain ⟨own, among, address, tries⟩ := covers.listed_of_mem inside
    have valid : ∀ tag ∈ own, Tag.isValid tag = true := by
      intro tag member
      have sendable : tag ∈ tags := flatten ▸ List.mem_flatten_of_mem among member
      obtain ⟨_, kept, rfl⟩ := List.mem_map.mp sendable
      exact (List.mem_filter.mp kept).2
    have unfit : ¬Tag.isValid inv.expression = true := Bool.eq_false_iff.mp rejected
    refine ⟨fun listed => unfit (valid _ (tries.mem_listed.1 listed)), fun listed => unfit ?_⟩
    obtain ⟨tag, -, digest⟩ := List.mem_map.mp (tries.mem_listed.2 listed)
    exact digest ▸ isValid_of_isKey (Tag.isKey_digest site tag)

/-- A tag with a blank in it is not sent, the empty tag is; one more permit than can be given out
keeps all of them from being sent. -/
theorem purgeTags_covers_limit :
    let fleet : Rehearsal := ⟨["10.0.0.1", "10.0.0.2:8080"], "site-a", none, 0, ⟨[], [], true⟩⟩
    let batch := ["a", "b c", "", "d"].map (Invalidation.ofId 0 .tag)
    let run (concurrency : Nat) :=
      (purger Rehearsal.surroundings ⟨2, concurrency⟩).handle .tag batch (.start fleet)
    ((run 8).1.2 = .done ∧ ∃ rows,
      Covers Rehearsal.surroundings "site-a" fleet.edgeAddresses [["a", ""], ["d"]] (.start fleet)
        (run 8).2 rows ∧ listedAt "x-purge-tags-full" rows 1 = ["a", "", "d"]) ∧
    (run (Fanout.maxConcurrency + 1)).1.2 = .panicked Fanout.tooManyPermits ∧
      (run (Fanout.maxConcurrency + 1)).2.requests = [] := by
  intro fleet batch run
  have steady := Rehearsal.steady fleet
  obtain ⟨-, within, -⟩ :=
    purgeTags_covers Rehearsal.surroundings ⟨2, 8⟩ batch (.start fleet) steady
  obtain ⟨-, -, beyond⟩ :=
    purgeTags_covers Rehearsal.surroundings ⟨2, Fanout.maxConcurrency + 1⟩ batch (.start fleet)
      steady
  obtain ⟨done, rows, covers, listed, -⟩ := within (by decide)
  obtain ⟨panicked, none⟩ := beyond (Nat.lt_succ_self _)
  have read : parseAddress "10.0.0.2:8080" = .ok ("10.0.0.2", some 8080) := by decide +kernel
  have groups : groupsOf 2 ["a", "", "d"] = [["a", ""], ["d"]] := by
    simp [groupsOf_cons, groupsOf_nil]
  refine ⟨⟨done, rows, groups ▸ covers, ?_⟩, panicked, none.requests⟩
  exact (listed 1 "10.0.0.2:8080" "10.0.0.2" (some 8080) rfl read (by decide)).1

end CachePurge.Fleet
