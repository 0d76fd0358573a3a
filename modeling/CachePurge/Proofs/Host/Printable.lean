import CachePurge.Proofs.Host.Text
import CachePurge.Proofs.Text.Hex
import CachePurge.Proofs.Url.Authority

/-!
Hosts of URLs as text. Every host that a URL names was read from the URL's own text or is written in
percent encoding, so its text is ASCII without control characters, and so are host and port.
-/

namespace CachePurge

/-- ASCII without control characters. -/
def IsPrintable (text : List Char) : Prop := ∀ c ∈ text, 32 ≤ c.toNat ∧ c.toNat ≤ 126

theorem isPrintable_append {text rest : List Char} :
    IsPrintable (text ++ rest) ↔ IsPrintable text ∧ IsPrintable rest := List.forall_mem_append

theorem isPrintable_cons {c : Char} {text : List Char} :
    IsPrintable (c :: text) ↔ (32 ≤ c.toNat ∧ c.toNat ≤ 126) ∧ IsPrintable text :=
  List.forall_mem_cons

theorem isPrintable_nil : IsPrintable [] := nofun

theorem isPrintable_flatMap {α : Type} {parts : List α} {write : α → List Char}
    (each : ∀ part ∈ parts, IsPrintable (write part)) : IsPrintable (parts.flatMap write) := by
  intro c inside
  obtain ⟨part, among, own⟩ := List.mem_flatMap.mp inside
  exact each part among c own

theorem isPrintable_toDigits_ten (n : Nat) : IsPrintable (Nat.toDigits 10 n) := by
  intro c inside
  have figure := Nat.isDigit_of_mem_toDigits (by decide) (by decide) inside
  have all : ("0123456789".toList.all fun c => 32 ≤ c.toNat && c.toNat ≤ 126) = true := by decide
  simpa using List.all_eq_true.mp all c (mem_of_isDigit figure)

theorem isPrintable_portText (port : Option UInt16) :
    IsPrintable (Url.portText port).toList := by
  cases port with
  | none => exact isPrintable_nil
  | some port =>
      have text : (Url.portText (some port)).toList = ':' :: Nat.toDigits 10 port.toNat := by
        rw [Url.portText, String.toList_append, Nat.toList_repr]
        rfl
      rw [text]
      exact isPrintable_cons.mpr ⟨by decide, isPrintable_toDigits_ten _⟩

theorem Hex.printable_of_isDigit {c : Char} (digit : isDigit c = true) :
    32 ≤ c.toNat ∧ c.toNat ≤ 126 := by
  cases Nat.lt_or_ge c.toNat 128 with
  | inl ascii =>
      refine of_forall_ofNat
        (P := fun c => isDigit c = true → 32 ≤ c.toNat ∧ c.toNat ≤ 126) ?_ ascii digit
      decide +kernel
  | inr large =>
      rw [isDigit, value?_of_large large] at digit
      cases digit

theorem Percent.isPrintable_encodeByte (b : UInt8) : IsPrintable (encodeByte b) := by
  have digit (n : Nat) : 32 ≤ (upperDigit n).toNat ∧ (upperDigit n).toNat ≤ 126 := by
    have all : ∀ m < 16, 32 ≤ (upperDigit m).toNat ∧ (upperDigit m).toNat ≤ 126 := by decide
    have own := all (n % 16) (Nat.mod_lt n (by decide))
    rwa [upperDigit, Hex.digit_mod, ← upperDigit] at own
  exact isPrintable_cons.mpr ⟨by decide, isPrintable_cons.mpr ⟨digit _,
    isPrintable_cons.mpr ⟨digit _, isPrintable_nil⟩⟩⟩

theorem Percent.isPrintable_encode (set text : List Char) : IsPrintable (encode set text) := by
  refine isPrintable_flatMap fun c _ => ?_
  split
  · exact isPrintable_flatMap fun b _ => isPrintable_encodeByte b
  · next plain =>
      refine isPrintable_cons.mpr ⟨?_, isPrintable_nil⟩
      rw [Bool.not_eq_true, Bool.or_eq_false_iff, isControl, Bool.or_eq_false_iff,
        decide_eq_false_iff_not, decide_eq_false_iff_not] at plain
      omega

namespace Ipv6

theorem isPrintable_joinGroups (groups : List UInt16) : IsPrintable (joinGroups groups) := by
  intro c inside
  rcases mem_of_mem_intercalate inside with rfl | ⟨label, among, own⟩
  · decide
  · obtain ⟨g, -, rfl⟩ := List.mem_map.mp among
    exact Hex.printable_of_isDigit (Hex.isDigit_of_mem_toDigits own)

theorem isPrintable_toText (address : Ipv6) : IsPrintable (toText address) := by
  rw [toText]
  split
  · exact isPrintable_joinGroups _
  · have colons : IsPrintable [':', ':'] :=
      isPrintable_cons.mpr ⟨by decide, isPrintable_cons.mpr ⟨by decide, isPrintable_nil⟩⟩
    exact isPrintable_append.mpr ⟨isPrintable_append.mpr ⟨isPrintable_joinGroups _, colons⟩,
      isPrintable_joinGroups _⟩

end Ipv6

namespace Host

/-- A host is read from a text as that of a URL, whatever the scheme says about hosts. -/
def IsRead (host : Host) : Prop := ∃ text, parse text = .ok host ∨ parsePlain text = .ok host

theorem isPrintable_ipv6 (address : Ipv6) : IsPrintable (toText (.ipv6 address)).toList := by
  rw [toText, String.toList_ofList]
  exact isPrintable_append.mpr ⟨isPrintable_cons.mpr ⟨by decide, Ipv6.isPrintable_toText address⟩,
    isPrintable_cons.mpr ⟨by decide, isPrintable_nil⟩⟩

theorem IsRead.isPrintable {host : Host} (read : host.IsRead) : IsPrintable host.toText.toList := by
  obtain ⟨text, parsed | parsed⟩ := read
  · rcases parse_cases parsed with ⟨address, rfl⟩ | ⟨name, settled, named⟩
    · exact isPrintable_ipv6 address
    · rcases ofAscii_cases named with ⟨address, -, rfl⟩ | rfl
      · rw [toText, String.toList_ofList]
        exact printable_of_settled (toText_ipv4_settled address)
      · rw [toText, String.toList_ofList]
        exact printable_of_settled settled
  · rw [parsePlain] at parsed
    split at parsed
    · next answer bracketed =>
        rw [parsed] at bracketed
        obtain ⟨address, rfl⟩ := bracketed?_ok bracketed
        exact isPrintable_ipv6 address
    · split at parsed
      · cases parsed
      · rw [← Except.ok.inj parsed, toText, String.toList_ofList]
        exact Percent.isPrintable_encode [] text

end Host

namespace Url

/-- The host of a URL, if it names one, was read from a text. -/
def HostRead (host : Option Host) : Prop := ∀ own, host = some own → own.IsRead

theorem readHost_read {scheme : String} {text : List Char} {host : Option Host}
    (read : readHost scheme text = .ok host) : HostRead host := by
  rintro own rfl
  rw [readHost.eq_def] at read
  split at read
  · split at read
    · cases read
    · obtain ⟨own, parsed, same⟩ := exceptMap_ok.mp read
      exact ⟨text, .inr (Option.some.inj same ▸ parsed)⟩
  · split at read
    · cases read
    · obtain ⟨own, parsed, same⟩ := exceptMap_ok.mp read
      exact ⟨text, .inl (Option.some.inj same ▸ parsed)⟩

theorem readAfterSlashes_read {scheme : String} {text : List Char} {url : Url}
    (read : readAfterSlashes scheme text = .ok url) : HostRead url.host := by
  obtain ⟨-, a, more, own, written⟩ := readAfterSlashes_ok read
  rw [Url.host, own]
  exact readHost_read (readAuthority_ok written).1

theorem readFileHost_read {text : List Char} {host : Option Host}
    (read : readFileHost text = .ok host) : HostRead host := by
  rintro own rfl
  rw [readFileHost] at read
  split at read
  · cases read
  · obtain ⟨other, parsed, same⟩ := exceptMap_ok.mp read
    split at same
    · cases same
    · exact ⟨text, .inl (Option.some.inj same ▸ parsed)⟩

theorem hostRead_none : HostRead none := nofun

theorem hostRead_ite (hidden : Bool) {host : Option Host} (read : HostRead host) :
    HostRead (if hidden then none else host) := by
  cases hidden with
  | false => exact read
  | true => exact hostRead_none

theorem readFile_read {text : List Char} {url : Url} (read : readFile text = .ok url) :
    HostRead url.host := by
  rw [readFile] at read
  generalize cutTail "file" text = tail at read
  obtain ⟨path, query, fragment⟩ := tail
  dsimp only at read
  split at read
  · split at read
    · obtain ⟨host, found, read⟩ := exceptBind_ok.mp read
      rw [← Except.ok.inj read]
      exact hostRead_ite _ (readFileHost_read found)
    · rw [← Except.ok.inj read]
      exact hostRead_ite _ hostRead_none
  · rw [← Except.ok.inj read]
    exact hostRead_ite _ hostRead_none
  · rw [← Except.ok.inj read]
    exact hostRead_none

theorem parse_read {text : String} {url : Url} (read : parse text = .ok url) :
    HostRead url.host := by
  rw [parse] at read
  split at read
  · rw [readWithScheme.eq_def] at read
    split at read
    · exact readFile_read read
    · split at read
      · exact readAfterSlashes_read read
      · rw [← Except.ok.inj read]
        exact hostRead_none
    · exact readAfterSlashes_read read
  · cases read

theorem isPrintable_hostAndPort {text own : String} {url : Url} (read : parse text = .ok url)
    (named : url.hostAndPort = some own) : IsPrintable own.toList := by
  obtain ⟨host, found, rfl⟩ := Option.map_eq_some_iff.mp named
  rw [String.toList_append]
  exact isPrintable_append.mpr
    ⟨(parse_read read host found).isPrintable, isPrintable_portText url.port⟩

end Url
end CachePurge
