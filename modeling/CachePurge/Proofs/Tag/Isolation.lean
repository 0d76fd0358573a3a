import CachePurge.Tag
import Mathlib.Data.List.Nodup

/-!
How far the digests of two sites are apart. A digest is taken of a site and a tag joined without any
mark between them, so it tells two pairs apart just when the joined texts differ: what ends a longer
site may as well begin the tag of a shorter one.
-/

namespace CachePurge

theorem utf8_append (text more : String) : utf8 (text ++ more) = utf8 text ++ utf8 more := by
  rw [utf8, String.toList_append, List.flatMap_append]
  rfl

theorem utf8_injective : Function.Injective utf8 := by
  intro text text' same
  have encoded : text.toList.utf8Encode = text'.toList.utf8Encode := congrArg List.toByteArray same
  rw [← String.toByteArray_ofList, ← String.toByteArray_ofList, String.toByteArray_inj,
    String.ofList_toList, String.ofList_toList] at encoded
  exact encoded

theorem eq_append_of_toList {text : String} {first second : List Char}
    (split : text.toList = first ++ second) :
    text = String.ofList first ++ String.ofList second := by
  rw [← String.ofList_append, ← split, String.ofList_toList]

/-- Two pairs of texts that join to the same text are the same, or in one of them the first text is
longer by what begins the second text of the other. -/
theorem append_eq_append_iff_moved {first second first' second' : String} :
    first ++ second = first' ++ second' ↔ first = first' ∧ second = second' ∨
      ∃ moved, moved ≠ "" ∧
        (first' = first ++ moved ∧ second = moved ++ second' ∨
          first = first' ++ moved ∧ second' = moved ++ second) := by
  constructor
  · intro joined
    have moves : ∃ moved,
        first' = first ++ moved ∧ second = moved ++ second' ∨
          first = first' ++ moved ∧ second' = moved ++ second := by
      have lists := congrArg String.toList joined
      rw [String.toList_append, String.toList_append, List.append_eq_append_iff] at lists
      rcases lists with ⟨part, longer, rest⟩ | ⟨part, longer, rest⟩
      · have texts := And.intro (eq_append_of_toList longer) (eq_append_of_toList rest)
        rw [String.ofList_toList, String.ofList_toList] at texts
        exact ⟨String.ofList part, .inl texts⟩
      · have texts := And.intro (eq_append_of_toList longer) (eq_append_of_toList rest)
        rw [String.ofList_toList, String.ofList_toList] at texts
        exact ⟨String.ofList part, .inr texts⟩
    obtain ⟨moved, shift⟩ := moves
    by_cases none : moved = ""
    · subst none
      simp only [String.append_empty, String.empty_append] at shift
      rcases shift with ⟨rfl, rfl⟩ | ⟨rfl, rfl⟩
      · exact .inl ⟨rfl, rfl⟩
      · exact .inl ⟨rfl, rfl⟩
    · exact .inr ⟨moved, none, shift⟩
  · rintro (⟨rfl, rfl⟩ | ⟨moved, -, ⟨rfl, rfl⟩ | ⟨rfl, rfl⟩⟩)
    · rfl
    · exact String.append_assoc.symm
    · exact String.append_assoc

namespace Tag

/-- The kept digits of a digest tell some byte strings apart. -/
def TellsApart (hashed : List (List UInt8)) : Prop :=
  ∀ x ∈ hashed, ∀ y ∈ hashed, digestOfBytes x = digestOfBytes y → x = y

theorem tellsApart_self (x : List UInt8) : TellsApart [x, x] := by
  intro y among z among' _
  simp only [List.mem_cons, List.not_mem_nil, or_false, or_self] at among among'
  rw [among, among']

theorem tellsApart_of_nodup {hashed : List (List UInt8)}
    (distinct : (hashed.map digestOfBytes).Nodup) : TellsApart hashed :=
  fun _ first _ second same => List.inj_on_of_nodup_map distinct first second same

theorem digestOfBytes_eq_iff {hashed : List (List UInt8)} (apart : TellsApart hashed)
    {x y : List UInt8} (first : x ∈ hashed) (second : y ∈ hashed) :
    digestOfBytes x = digestOfBytes y ↔ x = y :=
  ⟨apart x first y second, congrArg digestOfBytes⟩

/-- The bytes of which the digest of a tag is taken. -/
def hashed (site tag : String) : List UInt8 := utf8 site ++ utf8 tag

theorem hashed_eq_iff {site site' tag tag' : String} :
    hashed site tag = hashed site' tag' ↔ site ++ tag = site' ++ tag' := by
  rw [hashed, hashed, ← utf8_append, ← utf8_append, utf8_injective.eq_iff]

/-- Tags of two sites have the same digest just when they are the same tag of the same site, or one
site begins with the other and the rest of it stands at the beginning of the other's tag. So two
sites keep apart whatever their tags are if neither begins with the other. -/
theorem digest_eq_iff_moved {site site' tag tag' : String}
    (apart : TellsApart [hashed site tag, hashed site' tag']) :
    (digest site tag = digest site' tag' ↔ site = site' ∧ tag = tag' ∨
      ∃ moved, moved ≠ "" ∧
        (site' = site ++ moved ∧ tag = moved ++ tag' ∨
          site = site' ++ moved ∧ tag' = moved ++ tag)) ∧
    (¬site.toList <+: site'.toList → ¬site'.toList <+: site.toList →
      digest site tag ≠ digest site' tag') := by
  have first : hashed site tag ∈ [hashed site tag, hashed site' tag'] := List.mem_cons_self
  have second : hashed site' tag' ∈ [hashed site tag, hashed site' tag'] :=
    List.mem_cons_of_mem _ List.mem_cons_self
  have same : digest site tag = digest site' tag' ↔ site ++ tag = site' ++ tag' :=
    (digestOfBytes_eq_iff apart first second).trans hashed_eq_iff
  refine ⟨same.trans append_eq_append_iff_moved, fun before after collide => ?_⟩
  have joined := congrArg String.toList (same.mp collide)
  rw [String.toList_append, String.toList_append] at joined
  have either := List.prefix_or_prefix_of_prefix (joined ▸ List.prefix_append _ tag.toList)
    (List.prefix_append site'.toList tag'.toList)
  exact either.elim before after

/-- A digit at the end of one site may as well begin a tag of another. Sites that differ in their
last letter are apart. -/
theorem digest_eq_iff_moved_digit :
    "site-1" ≠ "site-10" ∧ digest "site-1" "0:node" = digest "site-10" ":node" ∧
      digest "site-a" "node:1" ≠ digest "site-b" "node:1" := by
  have one : hashed "site-1" "0:node" = hashed "site-10" ":node" := by decide +kernel
  have alike : TellsApart [hashed "site-1" "0:node", hashed "site-10" ":node"] := by
    rw [one]
    exact tellsApart_self _
  have apart : TellsApart [hashed "site-a" "node:1", hashed "site-b" "node:1"] :=
    tellsApart_of_nodup (by decide +kernel)
  refine ⟨by decide, (digest_eq_iff_moved alike).1.mpr ?_, ?_⟩
  · exact .inr ⟨"0", by decide, .inl ⟨by decide, by decide⟩⟩
  · exact (digest_eq_iff_moved apart).2 (by decide) (by decide)

end Tag
end CachePurge
