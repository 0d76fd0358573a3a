import CachePurge.Proofs.Fleet.Port

/-!
What is left of a page's URL that is pointed at an edge node. It leads to another host and port, and
its scheme gives way to plain http where that is asked for; all else is the page's own. The host and
port that the node is told of are those of the page, whatever node it is.
-/

namespace CachePurge

namespace Url

def username (url : Url) : String := (url.authority.map (·.username)).getD ""

def password (url : Url) : Option String := url.authority.bind (·.password)

/-- Two URLs that differ at most in scheme, host and port. -/
structure KeepsRest (url changed : Url) : Prop where
  path : changed.path = url.path
  query : changed.query = url.query
  fragment : changed.fragment = url.fragment
  username : changed.username = url.username
  password : changed.password = url.password

theorem KeepsRest.refl (url : Url) : KeepsRest url url := ⟨rfl, rfl, rfl, rfl, rfl⟩

theorem KeepsRest.trans {url changed last : Url} (first : KeepsRest url changed)
    (second : KeepsRest changed last) : KeepsRest url last where
  path := second.path.trans first.path
  query := second.query.trans first.query
  fragment := second.fragment.trans first.fragment
  username := second.username.trans first.username
  password := second.password.trans first.password

/-- What is done to host and port of an authority does not show in the rest. -/
theorem keepsRest_place (url : Url) (scheme : String) (host : Authority → Option Host)
    (port : Authority → Option UInt16) :
    KeepsRest url { url with
      scheme
      authority := url.authority.map fun a => { a with host := host a, port := port a } } := by
  obtain ⟨_, authority, _, _, _⟩ := url
  cases authority <;> exact ⟨rfl, rfl, rfl, rfl, rfl⟩

theorem withHostText_keeps {url changed : Url} {text : String}
    (set : url.withHostText text = .ok changed) : KeepsRest url changed := by
  obtain ⟨host, -, set⟩ := exceptBind_ok.mp set
  rw [← Except.ok.inj set]
  exact keepsRest_place url url.scheme (fun _ => some host) (·.port)

theorem withPort_keeps {url changed : Url} {port : Option UInt16}
    (set : url.withPort port = .ok changed) : KeepsRest url changed := by
  rw [withPort] at set
  split at set
  · cases set
  · rw [← Except.ok.inj set]
    exact keepsRest_place url url.scheme (·.host) _

theorem overHttp?_keeps {url changed : Url} (traded : url.overHttp? = some changed) :
    KeepsRest url changed := by
  rw [overHttp?] at traded
  split at traded
  · cases traded
  · rw [← Option.some.inj traded]
    exact keepsRest_place url "http" (·.host) _

theorem keptPort_ne {scheme : String} {port : Option UInt16} {own : UInt16}
    (kept : keptPort scheme port = some own) : defaultPort scheme ≠ some own := by
  rw [keptPort] at kept
  split at kept
  · cases kept
  · next other =>
      intro same
      exact other (beq_iff_eq.mpr (kept.trans same.symm))

theorem readFile_port {text : List Char} {url : Url} (read : readFile text = .ok url) :
    url.port = none := by
  rw [readFile] at read
  generalize cutTail "file" text = tail at read
  obtain ⟨path, query, fragment⟩ := tail
  dsimp only at read
  split at read
  · split at read
    · obtain ⟨host, -, read⟩ := exceptBind_ok.mp read
      rw [← Except.ok.inj read]
      rfl
    · rw [← Except.ok.inj read]
      rfl
  · rw [← Except.ok.inj read]
    rfl
  · rw [← Except.ok.inj read]
    rfl

theorem readAfterSlashes_port {scheme : String} {text : List Char} {url : Url}
    (read : readAfterSlashes scheme text = .ok url) :
    ∃ written, url.port = keptPort url.scheme written := by
  obtain ⟨same, a, more, own, written⟩ := readAfterSlashes_ok read
  obtain ⟨-, port⟩ := readAuthority_ok written
  rw [Url.port, own, same]
  exact ⟨_, port⟩

theorem parse_port {text : String} {url : Url} (read : parse text = .ok url) {port : UInt16}
    (own : url.port = some port) : defaultPort url.scheme ≠ some port := by
  have after {scheme : String} {rest : List Char}
      (read : readAfterSlashes scheme rest = .ok url) : defaultPort url.scheme ≠ some port := by
    obtain ⟨written, kept⟩ := readAfterSlashes_port read
    exact keptPort_ne (kept.symm.trans own)
  rw [parse] at read
  split at read
  · next scheme rest _ =>
      rw [readWithScheme.eq_def] at read
      split at read
      · rw [readFile_port read] at own
        cases own
      · split at read
        · exact after read
        · rw [← Except.ok.inj read] at own
          cases own
      · exact after read
  · cases read

end Url

namespace Fleet

open Url

theorem overHttpIf_keeps {plainHttp : Bool} {page asked : Url}
    (traded : overHttpIf plainHttp page = .ok asked) : page.KeepsRest asked := by
  cases plainHttp with
  | false =>
      rw [Except.ok.inj traded]
      exact .refl asked
  | true =>
      rw [overHttpIf, if_pos rfl] at traded
      split at traded
      · next changed own =>
          rw [← Except.ok.inj traded]
          exact overHttp?_keeps own
      · cases traded

theorem origin_names {url text : String} {page : Url} (found : origin url = .ok (page, text)) :
    ∃ host, page.host = some host ∧ text = host.toText ++ portText page.port := by
  obtain ⟨page', -, found⟩ := exceptBind_ok.mp found
  split at found
  · next text' named =>
      obtain ⟨rfl, rfl⟩ := Prod.mk.inj (Except.ok.inj found)
      obtain ⟨host, own, rfl⟩ := Option.map_eq_some_iff.mp named
      exact ⟨host, own, rfl⟩
  · cases found

theorem origin_of_unread {url : String} {fault : UrlError} (unread : parse url = .error fault) :
    origin url = .error fault := by
  rw [origin, unread]
  rfl

theorem origin_of_unnamed {url : String} {page : Url} (read : parse url = .ok page)
    (unnamed : page.host = none) : origin url = .error .emptyHost := by
  have none_ : page.hostAndPort = none := by rw [hostAndPort, unnamed, Option.map_none]
  simp only [origin, read, bind, Except.bind, none_]

theorem route_of_origin {url : String} {fault : UrlError} (unfound : origin url = .error fault)
    (address : String) (plainHttp : Bool) : route url address plainHttp = .error fault := by
  rw [route, unfound]
  rfl

/-- Only the place that a page's URL leads to is another one once it is pointed at an edge node, and
the scheme where plain http is asked for. The node is told of the page's own host, and of its port
unless that goes without saying, by any address and over any scheme. There is no such URL if the
page's cannot be read or names no host, or if the address cannot be read. -/
theorem route_redirects (url address : String) (plainHttp : Bool) :
    (∀ routed, route url address plainHttp = .ok routed →
      ∃ page host, parse url = .ok page ∧ page.host = some host ∧
        routed.target.path = page.path ∧ routed.target.query = page.query ∧
        routed.target.fragment = page.fragment ∧ routed.target.username = page.username ∧
        routed.target.password = page.password ∧
        routed.target.scheme = (if plainHttp then "http" else page.scheme) ∧
        routed.forwardedHost = host.toText ++ portText page.port ∧
        ∀ port, page.port = some port → defaultPort page.scheme ≠ some port) ∧
    (∀ fault, parse url = .error fault → route url address plainHttp = .error fault) ∧
    (∀ page, parse url = .ok page → page.host = none →
      route url address plainHttp = .error .emptyHost) ∧
    ∀ fault, parseAddress address = .error fault →
      ∃ first, route url address plainHttp = .error first := by
  refine ⟨fun routed run => ?_, fun fault unread => ?_, fun page read unnamed => ?_,
    fun fault unread => ?_⟩
  · obtain ⟨⟨page, forwarded⟩, found, run⟩ := exceptBind_ok.mp run
    obtain ⟨asked, traded, run⟩ := exceptBind_ok.mp run
    obtain ⟨⟨text, port⟩, -, run⟩ := exceptBind_ok.mp run
    obtain ⟨named, hosted, run⟩ := exceptBind_ok.mp run
    obtain ⟨target, ported, run⟩ := exceptBind_ok.mp run
    obtain ⟨host, own, told⟩ := origin_names found
    obtain ⟨-, -, scheme, -⟩ := withHostText_ok hosted
    obtain ⟨-, scheme', -⟩ := withPort_ok ported
    have read := origin_ok found
    have kept := (overHttpIf_keeps traded).trans
      ((withHostText_keeps hosted).trans (withPort_keeps ported))
    rw [← Except.ok.inj run]
    exact ⟨page, host, read, own, kept.path, kept.query, kept.fragment, kept.username,
      kept.password, scheme'.trans (scheme.trans (overHttpIf_ok traded)), told,
      fun _ => parse_port read⟩
  · exact route_of_origin (origin_of_unread unread) address plainHttp
  · exact route_of_origin (origin_of_unnamed read unnamed) address plainHttp
  · cases run : route url address plainHttp with
    | error first => exact ⟨first, rfl⟩
    | ok routed =>
        obtain ⟨_, -, run⟩ := exceptBind_ok.mp run
        obtain ⟨_, -, run⟩ := exceptBind_ok.mp run
        obtain ⟨place, read, -⟩ := exceptBind_ok.mp run
        rw [read] at unread
        cases unread

/-- A page with all parts at an address of its own kind, and what cannot be pointed anywhere. -/
theorem route_redirects_userinfo :
    (∃ routed, route "https://user:pw@Example.com:8443/a?x=1#top" "[::1]:6081" true = .ok routed ∧
      routed.target.path = .rooted ["a"] ∧ routed.target.query = some "x=1" ∧
      routed.target.fragment = some "top" ∧ routed.target.username = "user" ∧
      routed.target.password = some "pw" ∧ routed.target.scheme = "http" ∧
      routed.forwardedHost = "example.com:8443") ∧
    route "/relative" "[::1]:6081" true = .error .relativeWithoutBase ∧
    route "mailto:user@example.com" "[::1]:6081" true = .error .emptyHost ∧
    ∃ fault, route "https://user:pw@Example.com:8443/a?x=1#top" "" true = .error fault := by
  obtain ⟨routed, run⟩ : ∃ routed,
      route "https://user:pw@Example.com:8443/a?x=1#top" "[::1]:6081" true = .ok routed :=
    ⟨⟨⟨"http", some ⟨"user", some "pw", some (.ipv6 #v[0, 0, 0, 0, 0, 0, 0, 1]), some 6081⟩,
      .rooted ["a"], some "x=1", some "top"⟩, "example.com:8443"⟩, by decide +kernel⟩
  obtain ⟨keeps, -, -, -⟩ :=
    route_redirects "https://user:pw@Example.com:8443/a?x=1#top" "[::1]:6081" true
  obtain ⟨page, host, read, named, path, query, fragment, username, password, scheme, told, -⟩ :=
    keeps routed run
  have parsed : parse "https://user:pw@Example.com:8443/a?x=1#top" =
      .ok ⟨"https", some ⟨"user", some "pw", some (.domain "example.com"), some 8443⟩,
        .rooted ["a"], some "x=1", some "top"⟩ := by decide +kernel
  obtain rfl := Except.ok.inj (parsed.symm.trans read)
  obtain rfl := Option.some.inj named
  refine ⟨⟨routed, run, path, query, fragment, username, password, scheme, told⟩, ?_, ?_, ?_⟩
  · exact (route_redirects "/relative" _ _).2.1 _ (by decide +kernel)
  · exact (route_redirects "mailto:user@example.com" _ _).2.2.1
      ⟨"mailto", none, .plain "user@example.com", none, none⟩ (by decide +kernel) rfl
  · exact (route_redirects _ "" _).2.2.2 .emptyHost (by decide +kernel)

end Fleet
end CachePurge
