import CachePurge.Proofs.Tag.Isolation
import Mathlib.Data.List.Defs

/-!
Digests as tokens of a header. All of them are sixteen lower-case hexadecimal digits, so joined by
blanks they are found again, and they may stand in a header and in a path as they are.
-/

namespace CachePurge

namespace Hex

def lowerDigits : List Char :=
  ['0', '1', '2', '3', '4', '5', '6', '7', '8', '9', 'a', 'b', 'c', 'd', 'e', 'f']

theorem digit_mem (n : Nat) : digit n ∈ lowerDigits := by
  have all : ∀ m < 16, digit m ∈ lowerDigits := by decide
  have own := all (n % 16) (Nat.mod_lt n (by decide))
  rwa [digit, Nat.mod_mod, ← digit] at own

theorem mem_encode {bytes : List UInt8} {c : Char} (inside : c ∈ encode bytes) :
    c ∈ lowerDigits := by
  obtain ⟨b, -, digit⟩ := List.mem_flatMap.mp inside
  simp only [List.mem_cons, List.not_mem_nil, or_false] at digit
  rcases digit with rfl | rfl
  · exact digit_mem _
  · exact digit_mem _

end Hex

namespace Tag

/-- Sixteen lower-case hexadecimal digits. -/
structure IsKey (key : String) : Prop where
  length : key.length = digestLength
  digits : ∀ c ∈ key.toList, c ∈ Hex.lowerDigits

theorem isKey_digestOfBytes (bytes : List UInt8) : IsKey (digestOfBytes bytes) where
  length := by simp [digestOfBytes, digestLength]
  digits := by
    intro c inside
    rw [digestOfBytes, String.toList_ofList] at inside
    exact Hex.mem_encode (List.mem_of_mem_take inside)

theorem isKey_digest (site tag : String) : IsKey (digest site tag) := isKey_digestOfBytes _

theorem isKey_siteDigest (site : String) : IsKey (siteDigest site) := isKey_digestOfBytes _

theorem IsKey.of_all {key : String} (own : IsKey key) {p : Char → Bool}
    (all : Hex.lowerDigits.all p = true) : ∀ c ∈ key.toList, p c = true :=
  fun c inside => List.all_eq_true.mp all c (own.digits c inside)

/-- The parts of a header value between blanks. -/
def tokens (value : String) : List String := (value.toList.splitOn ' ').map String.ofList

/-- Texts without blanks that are joined by blanks are found again, if there are any. -/
theorem tokens_intercalate_of_plain {texts : List String} (nonempty : texts ≠ [])
    (plain : ∀ text ∈ texts, ' ' ∉ text.toList) : tokens (" ".intercalate texts) = texts := by
  have joined : (" ".intercalate texts).toList = [' '].intercalate (texts.map String.toList) :=
    String.toList_intercalate
  rw [tokens, joined, List.splitOn_intercalate ' ' (List.forall_mem_map.mpr plain)
    (mt List.map_eq_nil_iff.mp nonempty), List.map_map]
  exact (List.map_congr_left fun text _ => String.ofList_toList).trans (List.map_id texts)

theorem IsKey.plain {key : String} (own : IsKey key) : ' ' ∉ key.toList := by
  intro blank
  have other := own.of_all (p := (· != ' ')) (by decide) ' ' blank
  cases other

theorem tokens_intercalate {keys : List String} (nonempty : keys ≠ [])
    (own : ∀ key ∈ keys, IsKey key) : tokens (" ".intercalate keys) = keys :=
  tokens_intercalate_of_plain nonempty fun key among => (own key among).plain

theorem isValidChar_of_isValid {tag : String} (valid : isValid tag = true) {c : Char}
    (inside : c ∈ tag.toList) : '!' ≤ c ∧ c ≤ '~' := by
  have own := List.all_eq_true.mp valid c inside
  rwa [Bool.and_eq_true, decide_eq_true_eq, decide_eq_true_eq] at own

theorem plain_of_isValid {tag : String} (valid : isValid tag = true) : ' ' ∉ tag.toList :=
  fun blank => absurd (isValidChar_of_isValid valid blank).1 (by decide)

theorem digest_eq_iff {site tag tag' : String} {all : List (List UInt8)} (apart : TellsApart all)
    (first : hashed site tag ∈ all) (second : hashed site tag' ∈ all) :
    digest site tag = digest site tag' ↔ tag = tag' := by
  refine (digestOfBytes_eq_iff apart first second).trans (hashed_eq_iff.trans ?_)
  exact String.append_right_inj site

theorem hashed_empty (site : String) : hashed site "" = utf8 site := List.append_nil _

/-- The digest of the empty tag is that of the site. -/
theorem digest_empty (site : String) : digest site "" = siteDigest site :=
  congrArg digestOfBytes (hashed_empty site)

theorem digest_eq_siteDigest_iff {site tag : String} {all : List (List UInt8)}
    (apart : TellsApart all) (first : hashed site tag ∈ all) (second : utf8 site ∈ all) :
    digest site tag = siteDigest site ↔ tag = "" := by
  rw [← hashed_empty] at second
  rw [← digest_empty, digest_eq_iff apart first second]

end Tag
end CachePurge
