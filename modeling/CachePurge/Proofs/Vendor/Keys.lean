import CachePurge.Proofs.Tag.Token
import CachePurge.Proofs.Url.Segment
import CachePurge.Proofs.Vendor.Backend
import CachePurge.Rehearsal

/-!
Which responses a purge reaches at the vendor. A response carries the digests of its tags and that
of its site; a purge of tags names digests of tags, and a purge of the site that of the site. So a
purge reaches a response just when the two have a digest in common. The digest of the empty tag is
that of the site, and so its purge reaches every response.
-/

namespace CachePurge

/-- A key stands in a path as it is. -/
theorem Tag.IsKey.plain_segment {key : String} (own : Tag.IsKey key) (url : Url) :
    Url.Path.Plain url.segmentSet key :=
  Url.Path.plain_of_lower url (List.all_eq_true.mpr (own.of_all (by decide)))

namespace Vendor
namespace Fastly

/-- Requests to the API can be built: the token may stand in a header, and the API's URL can be
extended. -/
def CanSend (v : Fastly) : Prop :=
  Header.isValue v.token = true ∧ ∃ segments, v.apiBase.path = .rooted segments

section Requests
variable (v : Fastly)

theorem endpoint_rooted {own : List String} (rooted : v.apiBase.path = .rooted own)
    (segments : List String) :
    v.endpoint segments = .ok { v.apiBase with
      path := .rooted ((["service", v.serviceId, "purge"] ++ segments).foldl
        (Url.Path.push v.apiBase.segmentSet) (Url.Path.dropEmptyLast own)) } := by
  rw [endpoint, Url.appendSegments?, rooted]

theorem not_canSend (none : ¬v.CanSend) (method : String) (segments : List String) :
    ∃ fault, (v.endpoint segments >>= v.request method) = .error fault := by
  cases path : v.apiBase.path with
  | plain text =>
      rw [endpoint, Url.appendSegments?, path]
      exact ⟨_, rfl⟩
  | rooted own =>
      have token : ¬Header.isValue v.token = true := fun token => none ⟨token, own, path⟩
      rw [endpoint_rooted v path]
      change ∃ fault, v.request method _ = .error fault
      rw [request, if_neg token]
      exact ⟨_, rfl⟩

theorem canSend {own : List String} (token : Header.isValue v.token = true)
    (rooted : v.apiBase.path = .rooted own) (method : String) (segments : List String) :
    (v.endpoint segments >>= v.request method) =
      .ok ⟨method, { v.apiBase with
          path := .rooted ((["service", v.serviceId, "purge"] ++ segments).foldl
            (Url.Path.push v.apiBase.segmentSet) (Url.Path.dropEmptyLast own)) },
        [(tokenHeader, v.token), ("accept", "application/json")]⟩ := by
  rw [endpoint_rooted v rooted]
  change v.request method _ = _
  rw [request, if_pos token]

/-- A request is built just when requests to the API can be, and then it is as it should. -/
def Builds (built : Except Fault Http.Request) (own : Http.Request → Prop) : Prop :=
  v.CanSend ∧ (∃ request, built = .ok request ∧ own request) ∨
    ¬v.CanSend ∧ ∃ fault, built = .error fault

theorem tagsRequest_builds (tags : List String) :
    v.Builds (v.tagsRequest tags) fun request =>
      request.headers.lookup keysHeader = some (" ".intercalate (v.digests tags)) := by
  have split : v.tagsRequest tags = (v.endpoint [] >>= v.request "POST") >>= fun request =>
      .ok { request with
        headers := (keysHeader, " ".intercalate (v.digests tags)) :: request.headers } := by
    rw [tagsRequest]
    cases v.endpoint [] <;> rfl
  rw [split]
  by_cases sends : v.CanSend
  · obtain ⟨token, own, rooted⟩ := sends
    rw [canSend v token rooted]
    exact .inl ⟨⟨token, own, rooted⟩, _, rfl, List.lookup_cons_self⟩
  · obtain ⟨fault, refused⟩ := not_canSend v sends "POST" []
    rw [refused]
    exact .inr ⟨sends, fault, rfl⟩

theorem siteRequest_builds :
    v.Builds v.siteRequest fun request =>
      ∃ segments, request.url.path = .rooted (segments ++ [Tag.siteDigest v.site]) := by
  by_cases sends : v.CanSend
  · obtain ⟨token, own, rooted⟩ := sends
    refine .inl ⟨⟨token, own, rooted⟩, _, canSend v token rooted "POST" _, ?_⟩
    rw [List.foldl_append]
    exact ⟨_, congrArg Url.Path.rooted
      (Url.Path.push_plain _ ((Tag.isKey_siteDigest v.site).plain_segment v.apiBase))⟩
  · exact .inr ⟨sends, not_canSend v sends "POST" _⟩

end Requests

/-- What is sent for a batch for which one request is made as a whole. -/
theorem requests_of_wholeBatch {ε : Type} (s : Surroundings ε)
    {request : Except Fault Http.Request} (unblamed : Unblamed request) (accepts : Json → Bool)
    {batch : List Invalidation} (nonempty : batch ≠ []) (g : GatedLedger ε)
    (isOpen : g.gate.health (s.clock g.ledger.outside) = none) :
    (unlessClosed s batch (wholeBatch s request accepts batch) g).2.ledger.requests =
      g.ledger.requests ++ request.toOption.toList := by
  rw [unlessClosed_open s batch g _ isOpen]
  cases batch with
  | nil => exact absurd rfl nonempty
  | cons inv rest =>
      have exchanged := Fastly.exchanged s unblamed (g.looked s)
      exact exchanged.listed.trans (congrArg (g.ledger.requests ++ ·) exchanged.own)

/-- Nothing was sent if requests cannot be built, and one request as it should be if they can. -/
def Sends (v : Fastly) (before after : List Http.Request) (own : Http.Request → Prop) : Prop :=
  v.CanSend ∧ (∃ request, after = before ++ [request] ∧ own request) ∨
    ¬v.CanSend ∧ after = before

theorem Builds.sends {v : Fastly} {built : Except Fault Http.Request}
    {own own' : Http.Request → Prop} (builds : v.Builds built own)
    (each : ∀ request, own request → own' request) {before after : List Http.Request}
    (sent : after = before ++ built.toOption.toList) : v.Sends before after own' := by
  rcases builds with ⟨sends, request, rfl, fits⟩ | ⟨fails, fault, rfl⟩
  · exact .inl ⟨sends, request, sent, each request fits⟩
  · exact .inr ⟨fails, sent.trans (List.append_nil before)⟩

theorem Sends.request {v : Fastly} {before after : List Http.Request} {own : Http.Request → Prop}
    (sent : v.Sends before after own) (sends : v.CanSend) :
    ∃ request, after = before ++ [request] ∧ own request :=
  sent.elim (·.2) fun fails => absurd sends fails.1

theorem isKey_digests {site : String} {tags : List String} {key : String}
    (among : key ∈ tags.map (Tag.digest site)) : Tag.IsKey key := by
  obtain ⟨tag, -, rfl⟩ := List.mem_map.mp among
  exact Tag.isKey_digest site tag

theorem isKey_of_carried {site : String} {tags : List String} {key : String}
    (among : key ∈ tags.map (Tag.digest site) ++ [Tag.siteDigest site]) : Tag.IsKey key := by
  rcases List.mem_append.mp among with tag | own
  · exact isKey_digests tag
  · rw [List.mem_singleton.mp own]
    exact Tag.isKey_siteDigest site

theorem tokens_headerValue (v : Fastly) (tags : List String) :
    Tag.tokens (v.headerValue tags) =
      tags.map (Tag.digest v.site) ++ [Tag.siteDigest v.site] := by
  apply Tag.tokens_intercalate
  · exact List.append_ne_nil_of_right_ne_nil _ (List.cons_ne_nil _ _)
  · exact fun key among => isKey_of_carried among

theorem tokens_digests (v : Fastly) {tags : List String} (nonempty : tags ≠ []) :
    Tag.tokens (" ".intercalate (v.digests tags)) = tags.map (Tag.digest v.site) :=
  Tag.tokens_intercalate (mt List.map_eq_nil_iff.mp nonempty) fun _ among => isKey_digests among

/-- Digests of some tags, and those that a response with others carries, meet in a common tag, or in
the site's own digest if the empty tag is among the first. -/
theorem digests_meet_iff {site : String} {tags purged : List String}
    (apart : Tag.TellsApart (utf8 site :: (tags ++ purged).map (Tag.hashed site))) :
    (∃ key ∈ tags.map (Tag.digest site) ++ [Tag.siteDigest site],
        key ∈ purged.map (Tag.digest site)) ↔
      (∃ tag ∈ tags, tag ∈ purged) ∨ "" ∈ purged := by
  have first : ∀ tag ∈ tags, Tag.hashed site tag ∈
      utf8 site :: (tags ++ purged).map (Tag.hashed site) := fun tag among =>
    List.mem_cons_of_mem _ (List.mem_map_of_mem (List.mem_append_left purged among))
  have second : ∀ tag ∈ purged, Tag.hashed site tag ∈
      utf8 site :: (tags ++ purged).map (Tag.hashed site) := fun tag among =>
    List.mem_cons_of_mem _ (List.mem_map_of_mem (List.mem_append_right tags among))
  constructor
  · rintro ⟨key, carried, named⟩
    obtain ⟨tag, among, rfl⟩ := List.mem_map.mp named
    rcases List.mem_append.mp carried with ofTag | ofSite
    · obtain ⟨tag', among', same⟩ := List.mem_map.mp ofTag
      rw [Tag.digest_eq_iff apart (first tag' among') (second tag among)] at same
      exact .inl ⟨tag, same ▸ among', among⟩
    · have same := List.mem_singleton.mp ofSite
      rw [Tag.digest_eq_siteDigest_iff apart (second tag among) List.mem_cons_self] at same
      exact .inr (same ▸ among)
  · rintro (⟨tag, among, among'⟩ | empty)
    · exact ⟨Tag.digest site tag, List.mem_append_left _ (List.mem_map_of_mem among),
        List.mem_map_of_mem among'⟩
    · refine ⟨Tag.siteDigest site, List.mem_append_right _ (List.mem_singleton_self _), ?_⟩
      rw [← Tag.digest_empty]
      exact List.mem_map_of_mem empty

/-- What a response with some tags carries, what a purge of tags names, and what a purge of the site
names are digests, found again between the blanks. The purge of tags and the response have one in
common just when they have a tag in common, or when the empty tag is purged; the purge of the site
names a digest that every response of the site carries. -/
theorem purge_reaches_iff {ε : Type} (v : Fastly) (s : Surroundings ε) (g : GatedLedger ε)
    (isOpen : g.gate.health (s.clock g.ledger.outside) = none) (tags : List String)
    {batch : List Invalidation} (nonempty : batch ≠ [])
    (apart : Tag.TellsApart (utf8 v.site ::
      (tags ++ batch.map (·.expression)).map (Tag.hashed v.site))) :
    let carried := Tag.tokens (v.headerValue tags)
    carried = tags.map (Tag.digest v.site) ++ [Tag.siteDigest v.site] ∧
    (∀ key ∈ carried, Tag.IsKey key) ∧
    v.Sends g.ledger.requests (v.purgeTags s batch g).2.ledger.requests (fun request =>
      ∃ value, request.headers.lookup keysHeader = some value ∧
        Tag.tokens value = (batch.map (·.expression)).map (Tag.digest v.site) ∧
        (∀ key ∈ Tag.tokens value, Tag.IsKey key) ∧
        ((∃ key ∈ carried, key ∈ Tag.tokens value) ↔
          (∃ tag ∈ tags, tag ∈ batch.map (·.expression)) ∨ "" ∈ batch.map (·.expression))) ∧
    v.Sends g.ledger.requests (v.purgeSite s batch g).2.ledger.requests (fun request =>
      ∃ segments key, request.url.path = .rooted (segments ++ [key]) ∧ key ∈ carried) := by
  intro carried
  have own : carried = tags.map (Tag.digest v.site) ++ [Tag.siteDigest v.site] :=
    v.tokens_headerValue tags
  have named := v.tokens_digests (mt List.map_eq_nil_iff.mp nonempty :
    batch.map (·.expression) ≠ [])
  have tagsSent := requests_of_wholeBatch s
    (v.tagsRequest_unblamed (batch.map (·.expression))) Json.isObject nonempty g isOpen
  have siteSent := requests_of_wholeBatch s v.siteRequest_unblamed saysOk nonempty g isOpen
  rw [own]
  refine ⟨rfl, fun key among => isKey_of_carried among, ?_, ?_⟩
  · refine (v.tagsRequest_builds _).sends (fun request value => ⟨_, value, named, ?_⟩) tagsSent
    rw [named]
    exact ⟨fun key among => isKey_digests among, digests_meet_iff apart⟩
  · refine v.siteRequest_builds.sends (fun request path => ?_) siteSent
    obtain ⟨segments, rooted⟩ := path
    exact ⟨segments, _, rooted, List.mem_append_right _ (List.mem_singleton_self _)⟩

/-- The purge of the empty tag reaches a response without tags; that of a tag does not reach a
response with another. -/
theorem purge_reaches_iff_empty :
    let api : Url :=
      ⟨"https", some ⟨"", none, some (.domain "api.test"), none⟩, .rooted [""], none, none⟩
    let v : Fastly := ⟨api, "service", "token", "site-a"⟩
    let g : GatedLedger Rehearsal :=
      ⟨.start ⟨[], "site-a", none, Rehearsal.opening, [], [], true⟩, .clear⟩
    let purge := fun tag =>
      (v.purgeTags Rehearsal.surroundings [Invalidation.ofId 1 .tag tag] g).2.ledger.requests
    (∃ request value, purge "" = [request] ∧ request.headers.lookup keysHeader = some value ∧
      ∃ key ∈ Tag.tokens (v.headerValue []), key ∈ Tag.tokens value) ∧
    ∃ request value, purge "node:2" = [request] ∧
      request.headers.lookup keysHeader = some value ∧
      ¬∃ key ∈ Tag.tokens (v.headerValue ["node:1"]), key ∈ Tag.tokens value := by
  intro api v g purge
  have sends : v.CanSend := ⟨by decide, [""], rfl⟩
  have one : Tag.TellsApart [utf8 "site-a", Tag.hashed "site-a" ""] := by
    rw [Tag.hashed_empty]
    exact Tag.tellsApart_self _
  have three : Tag.TellsApart
      [utf8 "site-a", Tag.hashed "site-a" "node:1", Tag.hashed "site-a" "node:2"] :=
    Tag.tellsApart_of_nodup (by decide +kernel)
  obtain ⟨-, -, empty, -⟩ := purge_reaches_iff v Rehearsal.surroundings g rfl []
    (List.cons_ne_nil (Invalidation.ofId 1 .tag "") []) one
  obtain ⟨-, -, other, -⟩ := purge_reaches_iff v Rehearsal.surroundings g rfl ["node:1"]
    (List.cons_ne_nil (Invalidation.ofId 1 .tag "node:2") []) three
  obtain ⟨request, sent, value, found, -, -, meet⟩ := empty.request sends
  obtain ⟨request', sent', value', found', -, -, meet'⟩ := other.request sends
  refine ⟨⟨request, value, sent, found, meet.mpr ?_⟩, request', value', sent', found', ?_⟩
  · exact .inr (List.mem_singleton_self "")
  · rw [meet']
    decide

end Fastly
end Vendor
end CachePurge
