import CachePurge.Fleet.Address
import CachePurge.Http.Client
import CachePurge.Proofs.Url.Authority

/-!
The endpoints of an edge node. Their URLs take host and port from the address, and nothing else that
the address may hold.
-/

namespace CachePurge

namespace Url

theorem readAfterSlashes_rooted {scheme : String} {text : List Char} {url : Url}
    (read : readAfterSlashes scheme text = .ok url) :
    ∃ segments, url.path = .rooted segments := by
  obtain ⟨a, -, read⟩ := exceptBind_ok.mp read
  rw [← Except.ok.inj read]
  exact ⟨_, rfl⟩

/-- The paths of the endpoints. -/
def IsEndpoint (path : String) : Prop := path = "/tags" ∨ path = "/site"

/-- The URL of an endpoint under that of its node. -/
def atEndpoint (base : Url) (path : String) : Url :=
  { base with
    path := .rooted [String.ofList (path.toList.drop 1)]
    query := none
    fragment := none }

variable {path : String} (known : IsEndpoint path)
include known

theorem resolve_endpoint {base : Url} (http : base.scheme = "http") {own : List String}
    (rooted : base.path = .rooted own) : base.resolve path = .ok (base.atEndpoint path) := by
  obtain ⟨scheme, authority, path, query, fragment⟩ := base
  cases http
  cases rooted
  rcases known with rfl | rfl <;> rfl

theorem toText_atEndpoint {base : Url} (http : base.scheme = "http") {host : Host}
    (named : base.host = some host) :
    (Http.withoutUserinfo (base.atEndpoint path)).toText =
      "http://" ++ (host.toText ++ portText base.port) ++ path := by
  obtain ⟨scheme, authority, own, query, fragment⟩ := base
  cases http
  cases authority with
  | none => cases named
  | some a =>
      obtain ⟨username, password, _, port⟩ := a
      cases named
      have rooted : "/" ++ String.ofList (path.toList.drop 1) = path := by
        rcases known with rfl | rfl <;> rfl
      have parts : (Http.withoutUserinfo
          (atEndpoint ⟨"http", some ⟨username, password, some host, port⟩, own, query, fragment⟩
            path)).toText =
          "http:" ++ ("//" ++ ("" ++ host.toText ++ portText port)) ++ "" ++
            String.join ["/" ++ String.ofList (path.toList.drop 1)] ++ "" ++ "" := rfl
      simp only [parts, rooted, String.join_cons, String.join_nil, String.append_empty,
        String.empty_append, ← String.append_assoc]
      rfl

end Url

namespace Fleet

open Url

variable {address path : String} (known : IsEndpoint path)
include known

theorem edgeUrl_eq (address : String) :
    edgeUrl address path =
      (parse ("http://" ++ address)).map fun base => base.atEndpoint path := by
  rw [edgeUrl]
  cases read : parse ("http://" ++ address) with
  | error e => rfl
  | ok base =>
      have own := read
      rw [parse_eq_readAfterSlashes] at own
      obtain ⟨segments, rooted⟩ := readAfterSlashes_rooted own
      exact resolve_endpoint known (readAfterSlashes_ok own).1 rooted

/-- An endpoint of a node is found at the host and port that its address reads as. -/
theorem edgeUrl_of_parseAddress {host : String} {port : Option UInt16}
    (read : parseAddress address = .ok (host, port)) :
    ∃ url, edgeUrl address path = .ok url ∧
      (Http.withoutUserinfo url).toText = "http://" ++ (host ++ portText port) ++ path := by
  obtain ⟨base, parsed, read⟩ := exceptBind_ok.mp read
  have http : base.scheme = "http" := by
    rw [parse_eq_readAfterSlashes] at parsed
    exact (readAfterSlashes_ok parsed).1
  refine ⟨base.atEndpoint path, ?_, ?_⟩
  · rw [edgeUrl_eq known, parsed]
    rfl
  · cases named : base.host with
    | none =>
        rw [named] at read
        cases read
    | some own =>
        rw [named] at read
        obtain ⟨rfl, rfl⟩ := Prod.mk.inj (Except.ok.inj read)
        exact toText_atEndpoint known http named

/-- An address that reads as no host has no endpoint. -/
theorem edgeUrl_of_not_parseAddress (unread : ∀ place, parseAddress address ≠ .ok place) :
    ∃ fault, edgeUrl address path = .error fault := by
  rw [edgeUrl_eq known]
  cases parsed : parse ("http://" ++ address) with
  | error fault => exact ⟨fault, rfl⟩
  | ok base =>
      obtain ⟨host, -, named, -⟩ := parse_http parsed
      refine absurd ?_ (unread (host.toText, base.port))
      simp only [parseAddress, parsed, bind, Except.bind, named]
      rfl

end Fleet
end CachePurge
