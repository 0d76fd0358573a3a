import CachePurge.Fleet.Request
import CachePurge.Proofs.Fleet.Endpoint
import CachePurge.Proofs.Fleet.Port

/-!
Where an edge address leads over plain http. The endpoints of the node and the pages that it is
asked for are found at one host and one port, which are those that the address reads as. The address
may hold a path, a query, a fragment and user info besides; none of these shows in a host and port.
-/

namespace CachePurge.Fleet

open Url

/-- A URL leads over plain http to a host, given by its text, and a port. -/
structure LeadsTo (host : String) (port : Option UInt16) (url : Url) : Prop where
  scheme : url.scheme = "http"
  host : url.host.map Host.toText = some host
  port : url.port = port

/-- Requests that ban something at an edge address. -/
inductive BansAt (address : String) : Http.Request → Prop
  | tags {site : String} {digests tags : List String} {request : Http.Request} :
      tagRequest site digests tags address = .ok request → BansAt address request
  | site {site : String} {request : Http.Request} :
      siteRequest site address = .ok request → BansAt address request
  | pattern {site page : String} {request : Http.Request} :
      pageRequest pattern site page address = .ok request → BansAt address request

section Leads
variable {host : String} {port : Option UInt16} {url : Url}

theorem LeadsTo.hostAndPort (leads : LeadsTo host port url) :
    url.hostAndPort = some (host ++ portText port) := by
  obtain ⟨own, named, rfl⟩ := Option.map_eq_some_iff.mp leads.host
  rw [Url.hostAndPort, named, Option.map_some, leads.port]

theorem LeadsTo.effectivePort (leads : LeadsTo host port url) :
    url.effectivePort = port.or (some 80) := by
  rw [Url.effectivePort, leads.port, leads.scheme]
  rfl

end Leads

theorem keptPort_keptPort (scheme : String) (port : Option UInt16) :
    keptPort scheme (keptPort scheme port) = keptPort scheme port := by
  cases kept : keptPort scheme port with
  | none =>
      rw [keptPort]
      split <;> rfl
  | some own =>
      rw [keptPort, if_neg]
      rw [keptPort] at kept
      split at kept
      · cases kept
      · next other => rwa [← kept]

section Address
variable {address path host : String} {port : Option UInt16}

theorem parseAddress_eq_ok (read : parseAddress address = .ok (host, port)) :
    ∃ base, parse ("http://" ++ address) = .ok base ∧ LeadsTo host port base := by
  obtain ⟨base, parsed, read⟩ := exceptBind_ok.mp read
  refine ⟨base, parsed, ?_⟩
  split at read
  · next own named =>
      obtain ⟨rfl, rfl⟩ := Prod.mk.inj (Except.ok.inj read)
      rw [parse_eq_readAfterSlashes] at parsed
      refine ⟨(readAfterSlashes_ok parsed).1, ?_, rfl⟩
      rw [named, Option.map_some]
  · cases read

theorem edgeUrl_leads (known : IsEndpoint path)
    (read : parseAddress address = .ok (host, port)) :
    ∃ url, edgeUrl address path = .ok url ∧ LeadsTo host port url ∧ url.path.toText = path ∧
      url.query = none ∧ url.fragment = none := by
  obtain ⟨base, parsed, leads⟩ := parseAddress_eq_ok read
  refine ⟨base.atEndpoint path, ?_, ⟨leads.scheme, leads.host, leads.port⟩, ?_, rfl, rfl⟩
  · rw [edgeUrl_eq known, parsed]
    rfl
  · rcases known with rfl | rfl <;> rfl

theorem route_leads {page : String} {routed : Routed}
    (read : parseAddress address = .ok (host, port))
    (run : route page address true = .ok routed) : LeadsTo host port routed.target := by
  obtain ⟨own, parsed, text, kept⟩ := parseAddress_ok read
  obtain ⟨_, other, -, parsed', scheme, named, reached⟩ := route_ok run
  have same : own = other := Except.ok.inj (parsed.symm.trans parsed')
  rw [if_pos rfl] at scheme
  rw [scheme, keptPort_keptPort, ← kept] at reached
  exact ⟨scheme, by rw [named, text, same], reached⟩

theorem orInvalidUrl_eq_ok {α : Type} {answer : Except UrlError α} {a : α} :
    orInvalidUrl answer = .ok a ↔ answer = .ok a := by
  cases answer <;> simp [orInvalidUrl]

theorem BansAt.leads {request : Http.Request} (bans : BansAt address request)
    (read : parseAddress address = .ok (host, port)) :
    request.method = "BAN" ∧ LeadsTo host port request.url := by
  have endpoint {path : String} (known : IsEndpoint path) {url : Url}
      (found : orInvalidUrl (edgeUrl address path) = .ok url) : LeadsTo host port url := by
    obtain ⟨url', own, leads, -⟩ := edgeUrl_leads known read
    obtain rfl := Except.ok.inj (own.symm.trans (orInvalidUrl_eq_ok.mp found))
    exact leads
  cases bans with
  | tags built =>
      obtain ⟨url, found, built⟩ := exceptBind_ok.mp built
      obtain ⟨_, -, built⟩ := exceptBind_ok.mp built
      rw [← Except.ok.inj built]
      exact ⟨rfl, endpoint (.inl rfl) found⟩
  | site built =>
      obtain ⟨url, found, built⟩ := exceptBind_ok.mp built
      obtain ⟨_, -, built⟩ := exceptBind_ok.mp built
      rw [← Except.ok.inj built]
      exact ⟨rfl, endpoint (.inr rfl) found⟩
  | pattern built =>
      obtain ⟨routed, found, built⟩ := exceptBind_ok.mp built
      obtain ⟨_, -, built⟩ := exceptBind_ok.mp built
      rw [← Except.ok.inj built]
      exact ⟨rfl, route_leads read (orInvalidUrl_eq_ok.mp found)⟩

end Address

/-- A node has its endpoints just if its address can be read. Then they are found over plain http at
the host and port that the address reads as, with a path of their own and nothing behind it; any
page that the node is asked for over plain http is found at the same host and port. So all requests
that ban something at one address go to one place. -/
theorem bans_share_place (address path : String) (known : IsEndpoint path) :
    ((∃ url, edgeUrl address path = .ok url) ↔ ∃ place, parseAddress address = .ok place) ∧
    ∀ host port, parseAddress address = .ok (host, port) →
      (∃ url, edgeUrl address path = .ok url ∧ url.scheme = "http" ∧ url.path.toText = path ∧
        url.query = none ∧ url.fragment = none ∧
        url.hostAndPort = some (host ++ portText port)) ∧
      (∀ page routed, route page address true = .ok routed →
        routed.target.scheme = "http" ∧
          routed.target.hostAndPort = some (host ++ portText port)) ∧
      ∀ request, BansAt address request → request.method = "BAN" ∧
        request.url.hostAndPort = some (host ++ portText port) ∧
        request.url.effectivePort = port.or (some 80) := by
  refine ⟨⟨?_, ?_⟩,
    fun host port read => ⟨?_, fun page routed run => ?_, fun request bans => ?_⟩⟩
  · rintro ⟨url, found⟩
    by_contra unread
    obtain ⟨fault, none_⟩ := edgeUrl_of_not_parseAddress known (not_exists.mp unread)
    rw [found] at none_
    cases none_
  · rintro ⟨⟨host, port⟩, read⟩
    obtain ⟨url, found, -⟩ := edgeUrl_leads known read
    exact ⟨url, found⟩
  · obtain ⟨url, found, leads, own, query, fragment⟩ := edgeUrl_leads known read
    exact ⟨url, found, leads.scheme, own, query, fragment, leads.hostAndPort⟩
  · have leads := route_leads read run
    exact ⟨leads.scheme, leads.hostAndPort⟩
  · obtain ⟨method, leads⟩ := bans.leads read
    exact ⟨method, leads.hostAndPort, leads.effectivePort⟩

/-- An address with user info, a path, a query and a fragment besides its host and port. -/
theorem bans_share_place_ipv6 :
    let address := "user:pw@[0:0::1]:6081/x?y#z"
    (∃ url, edgeUrl address "/tags" = .ok url ∧ url.scheme = "http" ∧ url.path.toText = "/tags" ∧
      url.query = none ∧ url.fragment = none ∧ url.hostAndPort = some "[::1]:6081") ∧
    (∃ routed, route "https://example.com:8443/*" address true = .ok routed ∧
      routed.target.hostAndPort = some "[::1]:6081") ∧
    ∃ request, pageRequest pattern "site-a" "https://example.com:8443/*" address = .ok request ∧
      request.method = "BAN" ∧ request.url.hostAndPort = some "[::1]:6081" := by
  intro address
  have read : parseAddress address = .ok ("[::1]", some 6081) := by decide +kernel
  obtain ⟨target, run⟩ : ∃ target,
      route "https://example.com:8443/*" address true = .ok ⟨target, "example.com:8443"⟩ :=
    ⟨⟨"http", some ⟨"", none, some (.ipv6 #v[0, 0, 0, 0, 0, 0, 0, 1]), some 6081⟩, .rooted ["*"],
      none, none⟩, by decide +kernel⟩
  obtain ⟨-, share⟩ := bans_share_place address "/tags" (.inl rfl)
  obtain ⟨endpoint, pages, bans⟩ := share "[::1]" (some 6081) read
  have legal : headers [(forwardedHostHeader, "example.com:8443"), (siteHeader, "site-a")] =
      .ok [(forwardedHostHeader, "example.com:8443"), (siteHeader, "site-a")] :=
    if_pos (by decide)
  have built : pageRequest pattern "site-a" "https://example.com:8443/*" address =
      .ok ⟨ban, target, [(forwardedHostHeader, "example.com:8443"), (siteHeader, "site-a")]⟩ := by
    simp only [pageRequest, pattern, run, orInvalidUrl, bind, Except.bind, legal]
    rfl
  obtain ⟨method, place, -⟩ := bans _ (.pattern built)
  exact ⟨endpoint, ⟨_, run, (pages _ _ run).2⟩, _, built, method, place⟩

end CachePurge.Fleet
