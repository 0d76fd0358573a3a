import CachePurge.Fleet.Address
import CachePurge.Proofs.Host.Text
import CachePurge.Proofs.Url.Authority

/-!
Where a page's URL leads after it is pointed at an edge node. The host is the edge address's own.
The port is the one that the address writes, but an address is read as a page over plain http, so
port 80 is taken for none and gives way to the default port of the page's scheme.
-/

namespace CachePurge.Fleet

open Url

/-- The text of the host in an edge address. -/
def addressHost (address : String) : List Char :=
  (splitAuthorityText (addressAuthority address)).1

/-- The port that an edge address writes. -/
def addressPort (address : String) : Option UInt16 :=
  writtenPort (splitAuthorityText (addressAuthority address)).2

/-- A name without a port writes none. -/
theorem addressPort_of_name {name : List Char}
    (plain : ∀ c ∈ name, standsInside c = true ∧ c ≠ ':') :
    addressPort (String.ofList name) = none := by
  have inside : ∀ c ∈ name, standsInside c = true := fun c among => (plain c among).1
  have parts := splitHost_append plain []
  rw [List.append_nil] at parts
  rw [addressPort, addressAuthority_of_plain inside, splitAuthorityText,
    withoutUserinfo_of_plain inside, parts]
  rfl

/-- A name, a colon and a number write the number. -/
theorem addressPort_of_name_colon {name : List Char}
    (plain : ∀ c ∈ name, standsInside c = true ∧ c ≠ ':') (port : UInt16) :
    addressPort (String.ofList (name ++ ':' :: Nat.toDigits 10 port.toNat)) = some port := by
  have inside : ∀ c ∈ name ++ ':' :: Nat.toDigits 10 port.toNat, standsInside c = true := by
    intro c among
    cases List.mem_append.mp among with
    | inl own => exact (plain c own).1
    | inr among =>
        cases List.mem_cons.mp among with
        | inl same =>
            subst same
            decide
        | inr digit =>
            have all : "0123456789".toList.all standsInside = true := by decide
            have figure := Nat.isDigit_of_mem_toDigits (by decide) (by decide) digit
            exact List.all_eq_true.mp all c (mem_of_isDigit figure)
  rw [addressPort, addressAuthority_of_plain inside, splitAuthorityText,
    withoutUserinfo_of_plain inside, splitHost_append plain]
  change writtenPort (Nat.toDigits 10 port.toNat) = some port
  rw [writtenPort, if_neg, Nat.ofDigitChars_ten_toDigits]
  · exact congrArg some UInt16.ofNat_toNat
  · exact mt List.isEmpty_iff.mp Nat.toDigits_ne_nil

theorem parseAddress_ok {address text : String} {port : Option UInt16}
    (read : parseAddress address = .ok (text, port)) :
    ∃ host, Host.parse (addressHost address) = .ok host ∧ text = host.toText ∧
      port = keptPort "http" (addressPort address) := by
  obtain ⟨url, parsed, read⟩ := exceptBind_ok.mp read
  obtain ⟨host, own, named, kept⟩ := parse_http parsed
  rw [named] at read
  obtain ⟨rfl, rfl⟩ := Prod.mk.inj (Except.ok.inj read)
  exact ⟨host, own, rfl, kept⟩

theorem withHostText_ok {url changed : Url} {text : String}
    (set : url.withHostText text = .ok changed) :
    ∃ host, (Host.parse text.toList = .ok host ∨ Host.parsePlain text.toList = .ok host) ∧
      changed.scheme = url.scheme ∧ (changed.host = none ∨ changed.host = some host) := by
  obtain ⟨host, read, set⟩ := exceptBind_ok.mp set
  refine ⟨host, ?_, ?_⟩
  · generalize url.kind = kind at read
    cases kind with
    | other => exact .inr read
    | web | file => exact .inl read
  · rw [← Except.ok.inj set]
    refine ⟨rfl, ?_⟩
    rw [Url.host]
    cases url.authority with
    | none => exact .inl rfl
    | some _ => exact .inr rfl

theorem withPort_ok {url changed : Url} {port : Option UInt16}
    (set : url.withPort port = .ok changed) :
    url.host ≠ none ∧ changed.scheme = url.scheme ∧ changed.host = url.host ∧
      changed.port = keptPort url.scheme port := by
  rw [withPort] at set
  split at set
  · exact nomatch set
  · next open_ =>
      rw [Bool.not_eq_true, Bool.or_eq_false_iff] at open_
      have named : url.host ≠ none := by
        intro absent
        rw [absent] at open_
        exact absurd open_.1 (by decide)
      refine ⟨named, ?_⟩
      rw [← Except.ok.inj set]
      refine ⟨rfl, ?_⟩
      rw [Url.host] at named
      rw [Url.host, Url.host, Url.port]
      cases found : url.authority with
      | none =>
          rw [found] at named
          exact absurd rfl named
      | some _ => exact ⟨rfl, rfl⟩

theorem overHttpIf_ok {plainHttp : Bool} {page asked : Url}
    (traded : overHttpIf plainHttp page = .ok asked) :
    asked.scheme = if plainHttp then "http" else page.scheme := by
  cases plainHttp with
  | false => exact congrArg Url.scheme (Except.ok.inj traded).symm
  | true =>
      rw [overHttpIf, if_pos rfl, overHttp?] at traded
      split at traded
      · next changed own =>
          split at own
          · exact nomatch own
          · rw [← Except.ok.inj traded, ← Option.some.inj own]
            rfl
      · exact nomatch traded

/-- Reading an address as a page over plain http loses port 80 and no other. -/
theorem keptPort_http_or_iff (scheme : String) (port : Option UInt16) :
    (keptPort "http" port).or (defaultPort scheme) = port.or (defaultPort scheme) ↔
      ¬(port = some 80 ∧ defaultPort scheme ≠ some 80) := by
  rw [keptPort]
  split
  · next same =>
      obtain rfl : port = some 80 := eq_of_beq same
      refine ⟨fun equal differs => differs.2 equal, fun allowed => ?_⟩
      exact Classical.byContradiction fun differs => allowed ⟨rfl, differs⟩
  · next other =>
      refine ⟨fun _ lost => other ?_, fun _ => rfl⟩
      rw [lost.1]
      rfl

theorem origin_ok {url text : String} {page : Url} (found : origin url = .ok (page, text)) :
    parse url = .ok page := by
  obtain ⟨page', read, found⟩ := exceptBind_ok.mp found
  split at found
  · rwa [(Prod.mk.inj (Except.ok.inj found)).1] at read
  · exact nomatch found

/-- What the page's URL and the edge address each give to the URL that is asked for. -/
theorem route_ok {url address : String} {plainHttp : Bool} {routed : Routed}
    (run : route url address plainHttp = .ok routed) :
    ∃ page host, parse url = .ok page ∧ Host.parse (addressHost address) = .ok host ∧
      routed.target.scheme = (if plainHttp then "http" else page.scheme) ∧
      routed.target.host.map Host.toText = some host.toText ∧
      routed.target.port =
        keptPort routed.target.scheme (keptPort "http" (addressPort address)) := by
  obtain ⟨⟨page, forwarded⟩, origin, run⟩ := exceptBind_ok.mp run
  obtain ⟨asked, traded, run⟩ := exceptBind_ok.mp run
  obtain ⟨⟨text, port⟩, read, run⟩ := exceptBind_ok.mp run
  obtain ⟨named, hosted, run⟩ := exceptBind_ok.mp run
  obtain ⟨target, ported, run⟩ := exceptBind_ok.mp run
  rw [← Except.ok.inj run]
  obtain ⟨host, parsed, rfl, kept⟩ := parseAddress_ok read
  obtain ⟨own, again, scheme, put⟩ := withHostText_ok hosted
  obtain ⟨some_, scheme', host', port'⟩ := withPort_ok ported
  refine ⟨page, host, origin_ok origin, parsed, ?_, ?_, ?_⟩
  · rw [scheme', scheme, overHttpIf_ok traded]
  · rw [host', put.resolve_left some_, Option.map_some, Host.toText_reread parsed again]
  · rw [port', scheme', kept]

/-- A page's URL leads to the host of the edge address, and to the port that the address writes or
else to its scheme's default port, unless that port is 80 and not the scheme's default: then it
leads to the default port all the same. -/
theorem route_reaches_iff {url address : String} {plainHttp : Bool} {routed : Routed}
    (run : route url address plainHttp = .ok routed) :
    (∃ page host, parse url = .ok page ∧ Host.parse (addressHost address) = .ok host ∧
      routed.target.scheme = (if plainHttp then "http" else page.scheme) ∧
      routed.target.host.map Host.toText = some host.toText) ∧
    (routed.target.effectivePort =
        (addressPort address).or (defaultPort routed.target.scheme) ↔
      ¬(addressPort address = some 80 ∧ defaultPort routed.target.scheme ≠ some 80)) ∧
    (addressPort address = some 80 →
      routed.target.effectivePort = defaultPort routed.target.scheme) := by
  obtain ⟨page, host, read, parsed, scheme, named, port⟩ := route_ok run
  have reached : routed.target.effectivePort =
      (keptPort "http" (addressPort address)).or (defaultPort routed.target.scheme) := by
    rw [effectivePort, port, keptPort_or]
  refine ⟨⟨page, host, read, parsed, scheme, named⟩, ?_, fun own => ?_⟩
  · rw [reached]
    exact keptPort_http_or_iff routed.target.scheme (addressPort address)
  · rw [reached, own]
    rfl

theorem route_reaches_iff_https :
    ∃ routed, route "https://example.com/" "10.0.0.2:80" false = .ok routed ∧
      addressPort "10.0.0.2:80" = some 80 ∧ routed.target.effectivePort = some 443 ∧
      ¬routed.target.effectivePort =
        (addressPort "10.0.0.2:80").or (defaultPort routed.target.scheme) := by
  have run : route "https://example.com/" "10.0.0.2:80" false =
      .ok ⟨⟨"https", some ⟨"", none, some (.ipv4 0x0a000002), none⟩, .rooted [""], none, none⟩,
        "example.com"⟩ := by decide +kernel
  obtain ⟨-, reaches, eighty⟩ := route_reaches_iff run
  have port : addressPort "10.0.0.2:80" = some 80 := by decide +kernel
  refine ⟨_, run, port, eighty port, fun reached => ?_⟩
  exact reaches.mp reached ⟨port, by decide⟩

end CachePurge.Fleet
