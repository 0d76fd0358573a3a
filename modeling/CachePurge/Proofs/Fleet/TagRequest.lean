import CachePurge.Fleet.Request
import CachePurge.Proofs.Fleet.Endpoint
import CachePurge.Proofs.Tag.Token
import CachePurge.Proofs.Text.Joined

/-!
The request for a group of tags. It can be built if the address can be read and the site's name may
stand in a header: tags and digests always may. Whoever receives it finds the group in it, and the
digests in the order of the tags.
-/

namespace CachePurge

namespace Header

theorem isValue_iff {text : String} :
    isValue text = true ↔ ∀ c ∈ text.toList, isValueChar c = true := List.all_eq_true

theorem isValue_intercalate {texts : List String}
    (each : ∀ text ∈ texts, isValue text = true) : isValue (" ".intercalate texts) = true := by
  rw [isValue_iff, String.toList_intercalate]
  intro c inside
  rcases mem_of_mem_intercalate inside with rfl | ⟨label, among, own⟩
  · decide
  · obtain ⟨text, member, rfl⟩ := List.mem_map.mp among
    exact isValue_iff.mp (each text member) c own

theorem isValue_of_isValid {tag : String} (valid : Tag.isValid tag = true) :
    isValue tag = true := by
  rw [isValue_iff]
  intro c inside
  obtain ⟨low, high⟩ := Tag.isValidChar_of_isValid valid inside
  have blank : ' ' ≤ c := Char.le_trans (by decide) low
  have printable : c ≠ '\x7f' := by
    rintro rfl
    exact absurd high (by decide)
  rw [isValueChar, decide_eq_true blank, bne_iff_ne.mpr printable, Bool.and_self, Bool.or_true]

theorem isValue_of_isKey {key : String} (own : Tag.IsKey key) : isValue key = true :=
  isValue_iff.mpr (own.of_all (by decide))

end Header

namespace Fleet

theorem headers_eq_ok {pairs legal : List (String × String)} (built : headers pairs = .ok legal) :
    legal = pairs := by
  rw [headers] at built
  split at built
  · exact (Except.ok.inj built).symm
  · cases built

theorem isValue_joined_digests (salt : String) (tags : List String) :
    Header.isValue (joined (tags.map (Tag.digest salt))) = true :=
  Header.isValue_intercalate <| List.forall_mem_map.mpr fun tag _ =>
    Header.isValue_of_isKey (Tag.isKey_digest salt tag)

theorem isValue_joined_tags {tags : List String} (valid : ∀ tag ∈ tags, Tag.isValid tag = true) :
    Header.isValue (joined tags) = true :=
  Header.isValue_intercalate fun tag among => Header.isValue_of_isValid (valid tag among)

theorem isValue_tagHeaders (salt : String) {tags : List String}
    (valid : ∀ tag ∈ tags, Tag.isValid tag = true) :
    ∀ pair ∈ [(tagsHeader, joined (tags.map (Tag.digest salt))), (rawTagsHeader, joined tags)],
      Header.isValue pair.2 = true :=
  List.forall_mem_cons.mpr ⟨isValue_joined_digests salt tags,
    List.forall_mem_singleton.mpr (isValue_joined_tags valid)⟩

/-- Headers that are legal apart from the name of the site, which comes last. -/
theorem headers_of_legal {pairs : List (String × String)}
    (legal : ∀ pair ∈ pairs, Header.isValue pair.2 = true) (site : String) :
    headers (pairs ++ [(siteHeader, site)]) =
      if Header.isValue site then .ok (pairs ++ [(siteHeader, site)])
      else .error .invalidHeader := by
  have front : (pairs.all fun pair => Header.isValue pair.2) = true := List.all_eq_true.mpr legal
  rw [headers, List.all_append, front, Bool.true_and, List.all_cons, List.all_nil, Bool.and_true]

/-- A request for tags tells its reader no more than it was built from. -/
theorem headers_of_tagRequest {site address : String} {digests tags : List String}
    {request : Http.Request} (built : tagRequest site digests tags address = .ok request) :
    request.headers =
      [(tagsHeader, joined digests), (rawTagsHeader, joined tags), (siteHeader, site)] := by
  obtain ⟨url, -, built⟩ := exceptBind_ok.mp built
  obtain ⟨legal, found, built⟩ := exceptBind_ok.mp built
  rw [← Except.ok.inj built, headers_eq_ok found]

/-- A request bans some tags of a site at a place, given as host and port. -/
structure BansTags (site place : String) (tags : List String) (request : Http.Request) :
    Prop where
  method : request.method = "BAN"
  url : (Http.withoutUserinfo request.url).toText = "http://" ++ place ++ "/tags"
  named : request.headers.lookup "x-purge-site" = some site
  raw : (request.headers.lookup "x-purge-tags-full").map Tag.tokens = some tags
  digests : (request.headers.lookup "x-purge-tags").map Tag.tokens =
    some (tags.map (Tag.digest site))

variable {site address : String} {tags : List String}

theorem tagRequest_bans {host : String} {port : Option UInt16}
    (read : parseAddress address = .ok (host, port)) (legal : Header.isValue site = true)
    (nonempty : tags ≠ []) (valid : ∀ tag ∈ tags, Tag.isValid tag = true) :
    ∃ request, tagRequest site (tags.map (Tag.digest site)) tags address = .ok request ∧
      BansTags site (host ++ Url.portText port) tags request := by
  obtain ⟨url, found, text⟩ := edgeUrl_of_parseAddress (.inl rfl) read
  have keys : ∀ key ∈ tags.map (Tag.digest site), Tag.IsKey key :=
    List.forall_mem_map.mpr fun tag _ => Tag.isKey_digest site tag
  have built := (headers_of_legal (isValue_tagHeaders site valid) site).trans (if_pos legal)
  rw [List.cons_append, List.singleton_append] at built
  refine ⟨⟨ban, url, _⟩, by rw [tagRequest, found, built]; rfl, ⟨rfl, text, rfl, ?_, ?_⟩⟩
  · exact congrArg some (Tag.tokens_intercalate_of_plain nonempty fun tag among =>
      Tag.plain_of_isValid (valid tag among))
  · exact congrArg some (Tag.tokens_intercalate (mt List.map_eq_nil_iff.mp nonempty) keys)

theorem tagRequest_unbuilt (unfit : (∀ place, parseAddress address ≠ .ok place) ∨
      Header.isValue site = false) (digests tags : List String) :
    ∃ fault, tagRequest site digests tags address = .error fault := by
  rw [tagRequest]
  cases found : edgeUrl address "/tags" with
  | error e => exact ⟨.invalidUrl e, rfl⟩
  | ok url =>
      have illegal : Header.isValue site = false := by
        refine unfit.resolve_left fun unread => ?_
        have known : Url.IsEndpoint "/tags" := .inl rfl
        obtain ⟨fault, none⟩ := edgeUrl_of_not_parseAddress known unread
        rw [none] at found
        cases found
      refine ⟨.invalidHeader, ?_⟩
      rw [headers, if_neg]
      · rfl
      · simp only [List.all_cons, illegal, Bool.false_and, Bool.and_false, Bool.false_eq_true,
          not_false_eq_true]

end Fleet
end CachePurge
