import CachePurge.Host.Basic
import CachePurge.Proofs.Host.Ipv4
import CachePurge.Proofs.Host.Ipv6
import CachePurge.Proofs.Idna.Ascii
import CachePurge.Proofs.Text.Ascii

/-!
The text of a host that has been read. If it is read again, whatever the scheme says about hosts,
it names a host with the same text.
-/

namespace CachePurge.Host

open Idna

theorem toText_ipv4_settled (address : UInt32) :
    ∀ c ∈ Ipv4.toText address, isSettled c.toNat = true := by
  intro c inside
  cases Ipv4.mem_toText inside with
  | inl same =>
      subst same
      decide
  | inr digit =>
      have all : ("0123456789".toList.all fun c => isSettled c.toNat) = true := by decide
      exact List.all_eq_true.mp all c (mem_of_isDigit digit)

section Settled

variable {text : List Char} (settled : ∀ c ∈ text, isSettled c.toNat = true)
include settled

theorem printable_of_settled : ∀ c ∈ text, 32 ≤ c.toNat ∧ c.toNat ≤ 126 := by
  have all : ∀ n < 128, isSettled n = true → 32 ≤ n ∧ n ≤ 126 := by decide
  intro c inside
  exact all c.toNat (isSettled_iff.mp (settled c inside)).1 (settled c inside)

theorem bracketed?_of_settled : bracketed? text = none := by
  rw [bracketed?]
  rintro rest rfl
  exact absurd (settled '[' List.mem_cons_self) (by decide)

theorem decode_of_settled : Utf8.decode? (Percent.decode text) = some text := by
  have ascii : ∀ c ∈ text, c.toNat < 128 := fun c inside => (isSettled_iff.mp (settled c inside)).1
  rw [Percent.decode_ascii fun c inside => ⟨ascii c inside, ?_⟩, Utf8.decode?_ascii ascii]
  rintro rfl
  exact absurd (settled '%' inside) (by decide)

theorem parse_of_settled {host : Host} (parsed : parse text = .ok host) :
    ofAscii text = .ok host := by
  rw [parse, bracketed?_of_settled settled, decode_of_settled settled] at parsed
  dsimp only [Option.bind_some] at parsed
  split at parsed
  · next name found => rwa [toAscii_of_settled settled found] at parsed
  · exact nomatch parsed

theorem parsePlain_of_settled {host : Host} (parsed : parsePlain text = .ok host) :
    host = .domain (String.ofList text) := by
  rw [parsePlain, bracketed?_of_settled settled] at parsed
  dsimp only at parsed
  split at parsed
  · exact nomatch parsed
  · rw [Percent.encode_nil_of_printable (printable_of_settled settled)] at parsed
    exact (Except.ok.inj parsed).symm

end Settled

theorem bracketed?_ok {text : List Char} {host : Host} (read : bracketed? text = some (.ok host)) :
    ∃ address, host = .ipv6 address := by
  rw [bracketed?.eq_def] at read
  split at read
  · split at read
    · split at read
      · next address _ => exact ⟨address, (Except.ok.inj (Option.some.inj read)).symm⟩
      · exact nomatch read
    · exact nomatch read
  · exact nomatch read

theorem parse_cases {text : List Char} {host : Host} (parsed : parse text = .ok host) :
    (∃ address, host = .ipv6 address) ∨
      ∃ name, (∀ c ∈ name, isSettled c.toNat = true) ∧ ofAscii name = .ok host := by
  rw [parse] at parsed
  split at parsed
  · next answer bracketed =>
      rw [parsed] at bracketed
      exact .inl (bracketed?_ok bracketed)
  · split at parsed
    · next name found =>
        obtain ⟨decoded, -, found⟩ := Option.bind_eq_some_iff.mp found
        exact .inr ⟨name, toAscii_settled found, parsed⟩
    · exact nomatch parsed

theorem ofAscii_cases {name : List Char} {host : Host} (read : ofAscii name = .ok host) :
    (∃ address, Ipv4.parse? name = some address ∧ host = .ipv4 address) ∨
      host = .domain (String.ofList name) := by
  rw [ofAscii] at read
  split at read
  · exact nomatch read
  · split at read
    · split at read
      · next address own => exact .inl ⟨address, own, (Except.ok.inj read).symm⟩
      · exact nomatch read
    · exact .inr (Except.ok.inj read).symm

theorem bracketed?_toText (address : Ipv6) :
    bracketed? ('[' :: Ipv6.toText address ++ [']']) = some (.ok (.ipv6 address)) := by
  rw [List.cons_append, bracketed?, List.getLast?_concat, if_pos (beq_self_eq_true _),
    List.dropLast_concat, Ipv6.parse?_toText]

theorem toText_of_ipv6 {address : Ipv6} {other : Host}
    (again : parse (toText (.ipv6 address)).toList = .ok other ∨
      parsePlain (toText (.ipv6 address)).toList = .ok other) :
    other.toText = toText (.ipv6 address) := by
  rw [toText, String.toList_ofList, parse, parsePlain, bracketed?_toText] at again
  cases again with
  | inl again => exact congrArg toText (Except.ok.inj again).symm
  | inr again => exact congrArg toText (Except.ok.inj again).symm

theorem toText_of_settled {name : List Char} (settled : ∀ c ∈ name, isSettled c.toNat = true)
    {host other : Host} (own : host.toText = String.ofList name)
    (again : parse host.toText.toList = .ok other ∨ parsePlain host.toText.toList = .ok other)
    (read : ∀ other, ofAscii name = .ok other → other.toText = String.ofList name) :
    other.toText = host.toText := by
  rw [own, String.toList_ofList] at again
  rw [own]
  cases again with
  | inl again => exact read other (parse_of_settled settled again)
  | inr again =>
      rw [parsePlain_of_settled settled again]
      rfl

/-- A host that was read keeps its text when that is read again. -/
theorem toText_reread {text : List Char} {host other : Host} (parsed : parse text = .ok host)
    (again : parse host.toText.toList = .ok other ∨ parsePlain host.toText.toList = .ok other) :
    other.toText = host.toText := by
  cases parse_cases parsed with
  | inl found =>
      obtain ⟨address, rfl⟩ := found
      exact toText_of_ipv6 again
  | inr found =>
      obtain ⟨name, settled, named⟩ := found
      cases ofAscii_cases named with
      | inl found =>
          obtain ⟨address, -, rfl⟩ := found
          refine toText_of_settled (toText_ipv4_settled address) rfl again fun other read => ?_
          cases ofAscii_cases read with
          | inl found =>
              obtain ⟨address', own, rfl⟩ := found
              rw [Ipv4.parse?_toText] at own
              rw [Option.some.inj own]
              rfl
          | inr same =>
              subst same
              rfl
      | inr same =>
          subst same
          refine toText_of_settled settled rfl again fun other read => ?_
          rw [← Except.ok.inj (named.symm.trans read)]
          rfl

end CachePurge.Host
