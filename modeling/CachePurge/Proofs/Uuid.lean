import CachePurge.Proofs.Text.Hex
import CachePurge.Uuid

/-!
The spellings of an identifier. Each text that is read spells the one identifier it is read as, and
every spelling is read, so the way in which identifiers are written is one of them.
-/

namespace CachePurge.Uuid

/-- The text is the digits cut into groups of these lengths, with a hyphen between each two. -/
def IsGrouped (lengths : List Nat) (digits text : List Char) : Prop :=
  ∃ groups : List (List Char), groups.map List.length = lengths ∧ groups.flatten = digits ∧
    ['-'].intercalate groups = text

/-- The places of the identifier, in either letter case. -/
def IsDigits (id : Uuid) (digits : List Char) : Prop :=
  digits.map Char.toLower = Hex.ofNat 32 id.toNat

/-- The ways to write an identifier. -/
inductive Spells (id : Uuid) : List Char → Prop
  | plain {digits : List Char} : IsDigits id digits → Spells id digits
  | hyphenated {digits text : List Char} : IsDigits id digits →
      IsGrouped groupLengths digits text → Spells id text
  | braced {digits text : List Char} : IsDigits id digits →
      IsGrouped groupLengths digits text → Spells id ('\x7b' :: text ++ ['\x7d'])
  | urn {digits text : List Char} : IsDigits id digits →
      IsGrouped groupLengths digits text → Spells id ("urn:uuid:".toList ++ text)

theorem isGrouped_nil {digits text : List Char} :
    IsGrouped [] digits text ↔ digits = [] ∧ text = [] := by
  constructor
  · rintro ⟨groups, none_, rfl, rfl⟩
    obtain rfl := List.map_eq_nil_iff.mp none_
    exact ⟨rfl, rfl⟩
  · rintro ⟨rfl, rfl⟩
    exact ⟨[], rfl, rfl, rfl⟩

theorem isGrouped_singleton {n : Nat} {digits text : List Char} :
    IsGrouped [n] digits text ↔ digits.length = n ∧ text = digits := by
  constructor
  · rintro ⟨groups, one, rfl, rfl⟩
    obtain ⟨group, rfl, own⟩ := List.map_eq_singleton_iff.mp one
    rw [List.flatten_singleton, List.intercalate_singleton]
    exact ⟨own, rfl⟩
  · rintro ⟨own, rfl⟩
    exact ⟨[text], congrArg (fun n => [n]) own, List.flatten_singleton,
      List.intercalate_singleton⟩

theorem isGrouped_cons_cons {n m : Nat} {more : List Nat} {digits text : List Char} :
    IsGrouped (n :: m :: more) digits text ↔ ∃ first rest later, first.length = n ∧
      IsGrouped (m :: more) rest later ∧ digits = first ++ rest ∧
        text = first ++ '-' :: later := by
  constructor
  · rintro ⟨groups, all, rfl, rfl⟩
    obtain ⟨first, groups, rfl, own, others⟩ := List.map_eq_cons_iff.mp all
    obtain ⟨second, groups, rfl, next, others⟩ := List.map_eq_cons_iff.mp others
    refine ⟨first, (second :: groups).flatten, ['-'].intercalate (second :: groups), own,
      ⟨second :: groups, ?_, rfl, rfl⟩, rfl, ?_⟩
    · rw [List.map_cons, next, others]
    · rw [List.intercalate_cons_cons, List.append_assoc, List.singleton_append]
  · rintro ⟨first, rest, later, own, ⟨groups, others, rfl, rfl⟩, rfl, rfl⟩
    obtain ⟨second, groups, rfl, -, -⟩ := List.map_eq_cons_iff.mp others
    refine ⟨first :: second :: groups, ?_, rfl, ?_⟩
    · rw [List.map_cons, own, others]
    · rw [List.intercalate_cons_cons, List.append_assoc, List.singleton_append]

theorem IsGrouped.length {lengths : List Nat} {digits text : List Char}
    (grouped : IsGrouped lengths digits text) (some_ : lengths ≠ []) :
    digits.length = lengths.sum ∧ text.length + 1 = lengths.sum + lengths.length := by
  induction lengths generalizing digits text with
  | nil => exact absurd rfl some_
  | cons n more ih =>
      cases more with
      | nil =>
          obtain ⟨own, rfl⟩ := isGrouped_singleton.mp grouped
          simp [own]
      | cons m more =>
          obtain ⟨first, rest, later, own, others, rfl, rfl⟩ := isGrouped_cons_cons.mp grouped
          obtain ⟨all, spaced⟩ := ih others (List.cons_ne_nil m more)
          simp only [List.sum_cons, List.length_cons, List.length_append] at all spaced ⊢
          omega

theorem IsGrouped.mem {lengths : List Nat} {digits text : List Char} {c : Char}
    (grouped : IsGrouped lengths digits text) (inside : c ∈ text) : c = '-' ∨ c ∈ digits := by
  obtain ⟨groups, -, rfl, rfl⟩ := grouped
  obtain hyphen | ⟨group, among, own⟩ := mem_of_mem_intercalate inside
  · exact .inl hyphen
  · exact .inr (List.mem_flatten_of_mem among own)

theorem isGrouped_hyphenate {lengths : List Nat} {digits : List Char}
    (all : digits.length = lengths.sum) : IsGrouped lengths digits (hyphenate lengths digits) := by
  induction lengths generalizing digits with
  | nil => exact isGrouped_nil.mpr ⟨List.length_eq_zero_iff.mp all, List.length_eq_zero_iff.mp all⟩
  | cons n more ih =>
      cases more with
      | nil => exact isGrouped_singleton.mpr ⟨all, rfl⟩
      | cons m more =>
          rw [List.sum_cons] at all
          have first : (digits.take n).length = n := List.length_take_of_le (by omega)
          have rest : (digits.drop n).length = (m :: more).sum := by
            rw [List.length_drop]
            omega
          exact isGrouped_cons_cons.mpr ⟨digits.take n, digits.drop n,
            hyphenate (m :: more) (digits.drop n), first, ih rest,
            (List.take_append_drop n digits).symm, rfl⟩

theorem unhyphenate?_eq_some_iff {lengths : List Nat} {text digits : List Char} :
    unhyphenate? lengths text = some digits ↔ IsGrouped lengths digits text := by
  induction lengths generalizing text digits with
  | nil =>
      rw [isGrouped_nil, unhyphenate?]
      cases text with
      | nil => simp [eq_comm]
      | cons c text => simp
  | cons n more ih =>
      cases more with
      | nil =>
          rw [isGrouped_singleton, unhyphenate?, Option.ite_none_right_eq_some, Option.some.injEq]
          constructor
          · rintro ⟨all, rfl⟩
            exact ⟨all, rfl⟩
          · rintro ⟨all, rfl⟩
            exact ⟨all, rfl⟩
      | cons m more =>
          rw [isGrouped_cons_cons, unhyphenate?]
          · constructor
            · intro found
              split at found
              · next later dropped =>
                  obtain ⟨rest, read, rfl⟩ := Option.map_eq_some_iff.mp found
                  have whole := List.take_append_drop n text
                  have reached : n < text.length := by
                    have left := congrArg List.length dropped
                    rw [List.length_drop, List.length_cons] at left
                    omega
                  rw [dropped] at whole
                  exact ⟨text.take n, rest, later, List.length_take_of_le (Nat.le_of_lt reached),
                    ih.mp read, rfl, whole.symm⟩
              · cases found
            · rintro ⟨first, rest, later, rfl, grouped, rfl, rfl⟩
              rw [List.drop_left, List.take_left]
              exact congrArg (Option.map (first ++ ·)) (ih.mpr grouped)
          · exact List.cons_ne_nil m more

theorem IsDigits.length {id : Uuid} {digits : List Char} (own : IsDigits id digits) :
    digits.length = 32 := by
  have mapped := congrArg List.length own
  rwa [List.length_map, Hex.length_ofNat] at mapped

theorem isDigits_ofNat (id : Uuid) : IsDigits id (Hex.ofNat 32 id.toNat) :=
  Hex.map_toLower_of_lower fun _ => Hex.mem_ofNat

theorem IsDigits.toNat? {id : Uuid} {digits : List Char} (own : IsDigits id digits) :
    Hex.toNat? digits = some id.toNat := by
  refine Hex.toNat?_eq_some_iff.mpr ?_
  have bound := id.isLt
  rw [own.length]
  exact ⟨own, by omega⟩

theorem ofDigits?_eq_some_iff {id : Uuid} {digits : List Char} :
    ofDigits? digits = some id ↔ IsDigits id digits := by
  rw [ofDigits?, Option.ite_none_right_eq_some, Option.map_eq_some_iff]
  constructor
  · rintro ⟨all, n, read, rfl⟩
    obtain ⟨same, bound⟩ := Hex.toNat?_eq_some_iff.mp read
    rw [all] at same bound
    have small : n < 2 ^ 128 := by omega
    rw [IsDigits, BitVec.toNat_ofNat, Nat.mod_eq_of_lt small, same]
  · intro own
    exact ⟨own.length, id.toNat, own.toNat?,
      (BitVec.ofNat_toNat 128 id).trans (BitVec.setWidth_eq id)⟩

theorem ofHyphenated?_eq_some_iff {id : Uuid} {text : List Char} :
    ofHyphenated? text = some id ↔
      ∃ digits, IsDigits id digits ∧ IsGrouped groupLengths digits text := by
  rw [ofHyphenated?, Option.bind_eq_some_iff]
  simp only [unhyphenate?_eq_some_iff, ofDigits?_eq_some_iff]
  exact exists_congr fun digits => and_comm

theorem IsDigits.mem {id : Uuid} {digits : List Char} (own : IsDigits id digits) {c : Char}
    (inside : c ∈ digits) : c.toLower ∈ '-' :: Hex.lowerDigits :=
  List.mem_cons_of_mem '-' (Hex.mem_ofNat (own ▸ List.mem_map_of_mem inside))

theorem IsGrouped.mem_of_isDigits {id : Uuid} {lengths : List Nat} {digits text : List Char}
    (grouped : IsGrouped lengths digits text) (own : IsDigits id digits) {c : Char}
    (inside : c ∈ text) : c.toLower ∈ '-' :: Hex.lowerDigits := by
  rcases grouped.mem inside with rfl | inside
  · exact List.mem_cons_self
  · exact own.mem inside

/-- What a text of hexadecimal digits and hyphens alone is read as. -/
def ofBare? (text : List Char) : Option Uuid :=
  if text.length = 32 then ofDigits? text else ofHyphenated? text

theorem ofText?_of_bare {text : String}
    (bare : ∀ c ∈ text.toList, c.toLower ∈ '-' :: Hex.lowerDigits) :
    ofText? text = ofBare? text.toList := by
  rw [ofText?]
  split
  · next rest whole => exact absurd (bare '\x7b' (whole ▸ List.mem_cons_self)) (by decide)
  · next rest whole => exact absurd (bare 'u' (whole ▸ List.mem_cons_self)) (by decide)
  · rfl

/-- A text is read as an identifier exactly if it spells that identifier. -/
theorem ofText?_eq_some_iff {id : Uuid} {text : String} :
    ofText? text = some id ↔ Spells id text.toList := by
  constructor
  · intro read
    rw [ofText?] at read
    split at read
    · next rest whole =>
        obtain ⟨closed, read⟩ := Option.ite_none_right_eq_some.mp read
        obtain ⟨digits, own, grouped⟩ := ofHyphenated?_eq_some_iff.mp read
        have back : rest.dropLast ++ ['\x7d'] = rest :=
          List.dropLast_append_getLast? _ (beq_iff_eq.mp closed)
        rw [whole, ← back]
        exact .braced own grouped
    · next rest whole =>
        obtain ⟨digits, own, grouped⟩ := ofHyphenated?_eq_some_iff.mp read
        rw [whole]
        exact .urn own grouped
    · split at read
      · exact .plain (ofDigits?_eq_some_iff.mp read)
      · obtain ⟨digits, own, grouped⟩ := ofHyphenated?_eq_some_iff.mp read
        exact .hyphenated own grouped
  · intro spells
    generalize same : text.toList = chars at spells
    cases spells with
    | plain own =>
        rw [ofText?_of_bare (same ▸ fun c => own.mem), same, ofBare?, if_pos own.length]
        exact ofDigits?_eq_some_iff.mpr own
    | hyphenated own grouped =>
        have long : chars.length ≠ 32 := by
          obtain ⟨-, spaced⟩ := grouped.length (List.cons_ne_nil _ _)
          simp only [groupLengths, List.sum_cons, List.sum_nil, List.length_cons,
            List.length_nil] at spaced
          omega
        rw [ofText?_of_bare (same ▸ fun c => grouped.mem_of_isDigits own), same, ofBare?,
          if_neg long]
        exact ofHyphenated?_eq_some_iff.mpr ⟨_, own, grouped⟩
    | @braced digits body own grouped =>
        rw [ofText?, same]
        change (if (body ++ ['\x7d']).getLast? == some '\x7d' then
          ofHyphenated? (body ++ ['\x7d']).dropLast else none) = some id
        rw [List.getLast?_concat, if_pos (beq_self_eq_true _), List.dropLast_concat]
        exact ofHyphenated?_eq_some_iff.mpr ⟨digits, own, grouped⟩
    | urn own grouped =>
        rw [ofText?, same]
        exact ofHyphenated?_eq_some_iff.mpr ⟨_, own, grouped⟩

theorem isGrouped_toText (id : Uuid) :
    IsGrouped groupLengths (Hex.ofNat 32 id.toNat) id.toText.toList := by
  rw [toText, String.toList_ofList]
  exact isGrouped_hyphenate (Hex.length_ofNat 32 id.toNat)

theorem ofText?_toText (id : Uuid) : ofText? id.toText = some id :=
  ofText?_eq_some_iff.mpr (.hyphenated (isDigits_ofNat id) (isGrouped_toText id))

end CachePurge.Uuid
