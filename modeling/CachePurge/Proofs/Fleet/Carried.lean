import CachePurge.Fleet.Purger
import CachePurge.Proofs.Fleet.TagRequest
import CachePurge.Proofs.Host.Printable

/-!
What is admitted can be carried in headers. A request for tags fails to be built only because of the
address or the site's name, never because of a tag that was accepted, and one for a page that can be
pointed at a node only because of the site's name.
-/

namespace CachePurge

theorem Header.isValue_of_isPrintable {text : String} (printable : IsPrintable text.toList) :
    isValue text = true := by
  rw [isValue_iff]
  intro c inside
  obtain ⟨low, high⟩ := printable c inside
  have blank : ' ' ≤ c := UInt32.le_iff_toNat_le.mpr low
  have kept : c ≠ '\x7f' := by
    rintro rfl
    exact absurd high (by decide)
  rw [isValueChar, decide_eq_true blank, bne_iff_ne.mpr kept, Bool.and_self, Bool.or_true]

namespace Fleet

/-- A request whose other headers are legal fails to be built only because of the name of the
site. -/
theorem carried_error_iff {pairs : List (String × String)}
    (legal : ∀ pair ∈ pairs, Header.isValue pair.2 = true) (site : String)
    (request : List (String × String) → Http.Request) (fault : Fault) :
    (headers (pairs ++ [(siteHeader, site)]) >>= fun headers => .ok (request headers)) =
        .error fault ↔
      Header.isValue site = false ∧ fault = .invalidHeader := by
  rw [headers_of_legal legal]
  cases Header.isValue site with
  | false =>
      change Except.error Fault.invalidHeader = .error fault ↔ _
      rw [Except.error.injEq, eq_self_iff_true, true_and, eq_comm]
  | true => exact ⟨nofun, fun ⟨illegal, _⟩ => nomatch illegal⟩

theorem origin_legal {url text : String} {page : Url} (found : origin url = .ok (page, text)) :
    isRoutable url = true ∧ Header.isValue text = true := by
  obtain ⟨page', read, found⟩ := exceptBind_ok.mp found
  split at found
  · next own named =>
      obtain ⟨rfl, rfl⟩ := Prod.mk.inj (Except.ok.inj found)
      refine ⟨?_, Header.isValue_of_isPrintable (Url.isPrintable_hostAndPort read named)⟩
      rw [isRoutable, read]
      exact congrArg Option.isSome named
  · cases found

theorem route_legal {url address : String} {plainHttp : Bool} {routed : Routed}
    (run : route url address plainHttp = .ok routed) :
    isRoutable url = true ∧ Header.isValue routed.forwardedHost = true := by
  obtain ⟨⟨page, forwarded⟩, found, run⟩ := exceptBind_ok.mp run
  obtain ⟨asked, -, run⟩ := exceptBind_ok.mp run
  obtain ⟨place, -, run⟩ := exceptBind_ok.mp run
  obtain ⟨named, -, run⟩ := exceptBind_ok.mp run
  obtain ⟨target, -, run⟩ := exceptBind_ok.mp run
  rw [← Except.ok.inj run]
  exact origin_legal found

/-- The headers of requests for tags that were accepted, and of requests for pages that can be
pointed at a node, are legal but for the name of the site. So the first fail to be built only if the
address cannot be read as that of a node or the name of the site is no header value, and the others
only because of that name. -/
theorem requests_unbuilt_iff (site : String) :
    (∀ (salt address : String) (tags : List String), (∀ tag ∈ tags, Tag.isValid tag = true) →
      Header.isValue (joined (tags.map (Tag.digest salt))) = true ∧
      Header.isValue (joined tags) = true ∧
      ∀ fault, tagRequest site (tags.map (Tag.digest salt)) tags address = .error fault ↔
        (∃ e, edgeUrl address "/tags" = .error e ∧ fault = .invalidUrl e) ∨
        (∃ endpoint, edgeUrl address "/tags" = .ok endpoint) ∧ Header.isValue site = false ∧
          fault = .invalidHeader) ∧
    ∀ (m : PageMethod) (url address : String) (routed : Routed),
      route url address m.plainHttp = .ok routed →
        isRoutable url = true ∧ Header.isValue routed.forwardedHost = true ∧
        ∀ fault, pageRequest m site url address = .error fault ↔
          Header.isValue site = false ∧ fault = .invalidHeader := by
  refine ⟨fun salt address tags valid => ?_, fun m url address routed run => ?_⟩
  · refine ⟨isValue_joined_digests salt tags, isValue_joined_tags valid, fun fault => ?_⟩
    have legal := isValue_tagHeaders salt valid
    rw [tagRequest]
    cases edgeUrl address "/tags" with
    | error e =>
        refine ⟨fun same => .inl ⟨e, rfl, (Except.error.inj same).symm⟩, ?_⟩
        rintro (⟨e', same, rfl⟩ | ⟨⟨_, absent⟩, _⟩)
        · rw [Except.error.inj same]
          rfl
        · cases absent
    | ok endpoint =>
        refine (carried_error_iff legal site (⟨ban, endpoint, ·⟩) fault).trans ⟨fun unfit => ?_, ?_⟩
        · exact .inr ⟨⟨endpoint, rfl⟩, unfit⟩
        · rintro (⟨_, absent, _⟩ | ⟨-, unfit⟩)
          · cases absent
          · exact unfit
  · obtain ⟨routable, forwarded⟩ := route_legal run
    refine ⟨routable, forwarded, fun fault => ?_⟩
    rw [pageRequest, run]
    exact carried_error_iff (List.forall_mem_singleton.mpr forwarded) site
      (⟨m.method, routed.target, ·⟩) fault

theorem requests_unbuilt_iff_port :
    (∀ tag ∈ ["", "news"], Tag.isValid tag = true) ∧
    (∀ fault, tagRequest "site-a" (["", "news"].map (Tag.digest "site-a")) ["", "news"]
      "10.0.0.1:8080" ≠ .error fault) ∧
    ∃ routed, route "https://example.com:8443/" "10.0.0.1:8080" exact.plainHttp = .ok routed ∧
      routed.forwardedHost = "example.com:8443" ∧
      ∀ fault, pageRequest exact "site\n" "https://example.com:8443/" "10.0.0.1:8080" =
        .error fault ↔ fault = .invalidHeader := by
  have valid : ∀ tag ∈ ["", "news"], Tag.isValid tag = true := by decide
  have endpoint : (edgeUrl "10.0.0.1:8080" "/tags").isOk = true := by decide +kernel
  have run : route "https://example.com:8443/" "10.0.0.1:8080" exact.plainHttp =
      .ok ⟨⟨"https", some ⟨"", none, some (.ipv4 0x0a000001), some 8080⟩, .rooted [""], none, none⟩,
        "example.com:8443"⟩ := by decide +kernel
  obtain ⟨-, -, tags⟩ := (requests_unbuilt_iff "site-a").1 "site-a" "10.0.0.1:8080" _ valid
  obtain ⟨-, -, page⟩ := (requests_unbuilt_iff "site\n").2 exact _ _ _ run
  refine ⟨valid, fun fault failed => ?_, _, run, rfl, fun fault => (page fault).trans ?_⟩
  · rcases (tags fault).mp failed with ⟨e, absent, -⟩ | ⟨-, illegal, -⟩
    · rw [absent] at endpoint
      cases endpoint
    · exact absurd illegal (by decide)
  · exact and_iff_right (by decide)

end Fleet
end CachePurge
