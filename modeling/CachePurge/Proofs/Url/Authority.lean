import CachePurge.Proofs.Program
import CachePurge.Url.Read
import Mathlib.Data.List.TakeDrop
import Mathlib.Data.List.TakeWhile

/-!
Host and port of an authority, and what reading keeps of them: the host that its text stands for,
and the port unless it is the scheme's own.
-/

namespace CachePurge

namespace Url

/-- The port that requests for a URL go to. -/
def effectivePort (url : Url) : Option UInt16 := url.port.or (defaultPort url.scheme)

/-- Host and port of an authority, apart from a colon between them. -/
def splitAuthorityText (authority : List Char) : List Char × List Char :=
  let (host, port) := splitHost false (withoutUserinfo authority)
  (host, port.drop 1)

/-- The port that digits write; no digits write none. -/
def writtenPort (digits : List Char) : Option UInt16 :=
  if digits.isEmpty then none else some (Nat.ofDigitChars 10 digits 0).toUInt16

/-- A port as the URLs of a scheme keep it. -/
def keptPort (scheme : String) (port : Option UInt16) : Option UInt16 :=
  if port == defaultPort scheme then none else port

theorem keptPort_or (scheme : String) (port : Option UInt16) :
    (keptPort scheme port).or (defaultPort scheme) = port.or (defaultPort scheme) := by
  rw [keptPort]
  split
  · next own =>
      rw [eq_of_beq own]
      cases defaultPort scheme <;> rfl
  · rfl

theorem readPort_ok {scheme : String} {digits : List Char} {port : Option UInt16}
    (read : readPort scheme digits = .ok port) : port = keptPort scheme (writtenPort digits) := by
  have value : digits.foldl (fun n c => n * 10 + (c.toNat - 48)) 0 =
      Nat.ofDigitChars 10 digits 0 := by
    refine congrArg (List.foldl · 0 digits) (funext fun n => funext fun c => ?_)
    rw [Nat.mul_comm]
    rfl
  rw [readPort, value] at read
  rw [writtenPort]
  dsimp only at read
  split at read
  · exact nomatch read
  · split at read
    · next empty =>
        rw [if_pos empty, ← Except.ok.inj read, keptPort]
        split <;> rfl
    · next some_ =>
        rw [if_neg some_]
        exact (Except.ok.inj read).symm

theorem splitUserinfo_ok {text : List Char} {more : Bool} {parts : List Char × List Char}
    (split : splitUserinfo text more = .ok parts) : parts.2 = withoutUserinfo text := by
  rw [splitUserinfo] at split
  rw [withoutUserinfo]
  split at split
  · next none_ =>
      rw [none_, ← Except.ok.inj split]
      rfl
  · next empty =>
      split at split
      · exact nomatch split
      · rw [empty, ← Except.ok.inj split]
        rfl
  · next own _ found =>
      rw [found, ← Except.ok.inj split]
      rfl

theorem readHostAndPort_ok {scheme : String} {text : List Char} {host : Option Host}
    {port : Option UInt16} (read : readHostAndPort scheme text = .ok (host, port)) :
    readHost scheme (splitHost false text).1 = .ok host ∧
      port = keptPort scheme (writtenPort ((splitHost false text).2.drop 1)) := by
  obtain ⟨host', own, read⟩ := exceptBind_ok.mp read
  dsimp only at read
  split at read
  · exact nomatch read
  · obtain ⟨port', kept, read⟩ := exceptBind_ok.mp read
    obtain ⟨rfl, rfl⟩ := Prod.mk.inj (Except.ok.inj read)
    exact ⟨own, readPort_ok kept⟩

theorem readAuthority_ok {scheme : String} {text : List Char} {more : Bool} {a : Authority}
    (read : readAuthority scheme text more = .ok a) :
    readHost scheme (splitAuthorityText text).1 = .ok a.host ∧
      a.port = keptPort scheme (writtenPort (splitAuthorityText text).2) := by
  rw [readAuthority] at read
  obtain ⟨⟨userinfo, rest⟩, parts, read⟩ := exceptBind_ok.mp read
  obtain rfl : rest = withoutUserinfo text := splitUserinfo_ok parts
  dsimp only at read
  generalize readUserinfo userinfo = names at read
  obtain ⟨⟨host, port⟩, own, read⟩ := exceptBind_ok.mp read
  dsimp only at read
  split at read
  · exact nomatch read
  · rw [← Except.ok.inj read]
    exact readHostAndPort_ok own

theorem readAfterSlashes_ok {scheme : String} {text : List Char} {url : Url}
    (read : readAfterSlashes scheme text = .ok url) :
    url.scheme = scheme ∧ ∃ a more, url.authority = some a ∧
      readAuthority scheme (splitAuthority (schemeKind scheme != .other) text).1 more = .ok a := by
  rw [readAfterSlashes] at read
  dsimp only at read
  generalize splitAuthority (schemeKind scheme != .other) text = parts at read ⊢
  obtain ⟨authority, rest⟩ := parts
  obtain ⟨a, own, read⟩ := exceptBind_ok.mp read
  generalize cutTail scheme rest = tail at read
  obtain ⟨path, query, fragment⟩ := tail
  rw [← Except.ok.inj read]
  exact ⟨rfl, a, _, rfl, own⟩

theorem readHost_http {text : List Char} {host : Option Host}
    (read : readHost "http" text = .ok host) :
    ∃ own, Host.parse text = .ok own ∧ host = some own := by
  change (if text.isEmpty then .error .emptyHost else (Host.parse text).map some) = _ at read
  split at read
  · exact nomatch read
  · cases own : Host.parse text with
    | error e =>
        rw [own] at read
        exact nomatch read
    | ok own' =>
        rw [own] at read
        exact ⟨own', rfl, (Except.ok.inj read).symm⟩

def isOuter (c : Char) : Bool := c ≤ ' '

/-- An edge address without what reading a URL drops of it. -/
def cleanEnd (address : String) : List Char :=
  ((address.toList.reverse.dropWhile isOuter).reverse).filter (!Path.isTabOrBreak ·)

theorem clean_http (address : String) :
    clean ("http://" ++ address) = "http://".toList ++ cleanEnd address := by
  have front : ("http://" ++ address).toList.dropWhile isOuter =
      "http://".toList ++ address.toList := by
    rw [String.toList_append]
    rfl
  have back : ("http://".toList ++ address.toList).reverse.dropWhile isOuter =
      address.toList.reverse.dropWhile isOuter ++ "http://".toList.reverse := by
    rw [List.reverse_append, List.dropWhile_append]
    split
    · next empty =>
        rw [List.isEmpty_iff.mp empty]
        rfl
    · rfl
  change (((("http://" ++ address).toList.dropWhile isOuter).reverse.dropWhile
    isOuter).reverse).filter (!Path.isTabOrBreak ·) = _
  rw [front, back, List.reverse_append, List.reverse_reverse, List.filter_append]
  rfl

/-- The authority that an edge address writes. -/
def addressAuthority (address : String) : List Char :=
  (splitAuthority true ((cleanEnd address).dropWhile (isSlash true))).1

theorem parse_eq_readAfterSlashes (address : String) :
    parse ("http://" ++ address) =
      readAfterSlashes "http" ((cleanEnd address).dropWhile (isSlash true)) := by
  have scheme : readScheme ("http://".toList ++ cleanEnd address) =
      some ("http", "//".toList ++ cleanEnd address) := rfl
  have slashes : ("//".toList ++ cleanEnd address).span (isSlash true) =
      ('/' :: '/' :: (cleanEnd address).takeWhile (isSlash true),
        (cleanEnd address).dropWhile (isSlash true)) := by
    rw [List.span_eq_takeWhile_dropWhile]
    rfl
  rw [parse, clean_http, scheme]
  change (match ("//".toList ++ cleanEnd address).span (isSlash true) with
    | (_, rest) => readAfterSlashes "http" rest) = _
  rw [slashes]

theorem parse_http {address : String} {url : Url} (read : parse ("http://" ++ address) = .ok url) :
    ∃ host, Host.parse (splitAuthorityText (addressAuthority address)).1 = .ok host ∧
      url.host = some host ∧
      url.port =
        keptPort "http" (writtenPort (splitAuthorityText (addressAuthority address)).2) := by
  rw [parse_eq_readAfterSlashes] at read
  obtain ⟨-, a, more, written, own⟩ := readAfterSlashes_ok read
  obtain ⟨host, port⟩ := readAuthority_ok own
  obtain ⟨host', parsed, same⟩ := readHost_http host
  refine ⟨host', parsed, ?_, ?_⟩
  · rw [Url.host, written]
    exact same
  · rw [Url.port, written]
    exact port

/-- A character that ends no part of an authority, except for a colon. -/
def standsInside (c : Char) : Bool := !isOuter c && !"/\\?#@[]".toList.contains c

theorem standsInside_ne {c d : Char} (inside : standsInside c = true)
    (outside : standsInside d = false) : c ≠ d := by
  rintro rfl
  rw [inside] at outside
  exact absurd outside (by decide)

theorem standsInside_beq {c d : Char} (inside : standsInside c = true)
    (outside : standsInside d = false) : (c == d) = false :=
  beq_eq_false_iff_ne.mpr (standsInside_ne inside outside)

theorem mem_splitHost {bracketed : Bool} {text : List Char} {c : Char}
    (inside : c ∈ (splitHost bracketed text).2) : c ∈ text := by
  induction text generalizing bracketed with
  | nil => exact inside
  | cons first rest ih =>
      rw [splitHost] at inside
      split at inside
      · exact inside
      · exact List.mem_cons_of_mem first (ih inside)

section Plain

variable {text : List Char} (plain : ∀ c ∈ text, standsInside c = true)
include plain

theorem dropWhile_of_plain {drop : Char → Bool}
    (kept : ∀ c, standsInside c = true → ¬drop c = true) : text.dropWhile drop = text := by
  rw [List.dropWhile_eq_self_iff]
  exact fun some_ => kept _ (plain _ (List.getElem_mem some_))

theorem cleanEnd_of_plain : cleanEnd (String.ofList text) = text := by
  have outer (c : Char) (inside : standsInside c = true) : ¬isOuter c = true := by
    rw [standsInside, Bool.and_eq_true, Bool.not_eq_true'] at inside
    exact Bool.eq_false_iff.mp inside.1
  have kept : ∀ c ∈ text, (!Path.isTabOrBreak c) = true := by
    intro c inside
    have own := plain c inside
    rw [Path.isTabOrBreak, standsInside_beq own (d := '\t') (by decide),
      standsInside_beq own (d := '\n') (by decide), standsInside_beq own (d := '\r') (by decide)]
    rfl
  have back : ∀ c ∈ text.reverse, standsInside c = true :=
    fun c inside => plain c (List.mem_reverse.mp inside)
  rw [cleanEnd, String.toList_ofList, dropWhile_of_plain back outer, List.reverse_reverse,
    List.filter_eq_self.mpr kept]

theorem withoutUserinfo_of_plain : withoutUserinfo text = text := by
  have gone : text.reverse.dropWhile (· != '@') = [] := by
    refine List.dropWhile_eq_nil_iff.mpr fun c inside => bne_iff_ne.mpr ?_
    exact standsInside_ne (plain c (List.mem_reverse.mp inside)) (by decide)
  rw [withoutUserinfo, splitLast, gone]
  rfl

theorem addressAuthority_of_plain : addressAuthority (String.ofList text) = text := by
  have slash (c : Char) (inside : standsInside c = true) : ¬isSlash true c = true := by
    rw [isSlash, standsInside_beq inside (d := '/') (by decide),
      standsInside_beq inside (d := '\\') (by decide)]
    decide
  have within : ∀ c ∈ text, (!endsAuthority true c) = true := by
    intro c inside
    have own := plain c inside
    rw [endsAuthority, Bool.eq_false_iff.mpr (slash c own),
      standsInside_beq own (d := '?') (by decide), standsInside_beq own (d := '#') (by decide)]
    rfl
  have own : text.span (!endsAuthority true ·) = (text, []) := by
    rw [List.span_eq_takeWhile_dropWhile, List.takeWhile_eq_self_iff.mpr within,
      List.dropWhile_eq_nil_iff.mpr within]
  have extra : (splitHost false text).2.dropWhile (· != '\\') = [] := by
    refine List.dropWhile_eq_nil_iff.mpr fun c inside => bne_iff_ne.mpr ?_
    exact standsInside_ne (plain c (mem_splitHost inside)) (by decide)
  rw [addressAuthority, cleanEnd_of_plain plain, dropWhile_of_plain plain slash,
    splitAuthority, own]
  dsimp only
  rw [withoutUserinfo_of_plain plain, extra]
  exact List.take_length

end Plain

theorem splitHost_append {host : List Char} (plain : ∀ c ∈ host, standsInside c = true ∧ c ≠ ':')
    (rest : List Char) :
    splitHost false (host ++ rest) =
      (host ++ (splitHost false rest).1, (splitHost false rest).2) := by
  induction host with
  | nil => rfl
  | cons c more ih =>
      obtain ⟨⟨inside, other⟩, plain⟩ := List.forall_mem_cons.mp plain
      rw [List.cons_append, splitHost, beq_eq_false_iff_ne.mpr other,
        standsInside_beq inside (d := '[') (by decide),
        standsInside_beq inside (d := ']') (by decide)]
      simp only [Bool.false_and, Bool.false_eq_true, if_false, ih plain]
      rfl

end Url
end CachePurge
