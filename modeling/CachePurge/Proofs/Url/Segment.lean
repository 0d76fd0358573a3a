import CachePurge.Proofs.Text.Percent
import CachePurge.Text.Blank
import CachePurge.Url.Basic
import Mathlib.Data.List.TakeWhile

/-!
Appending segments to a path. A segment is written in percent encoding, from which it can be read
again. But tabs and line ends in it are dropped before, and what stands for a place is skipped, or
resolved if it does so only then.
-/

namespace CachePurge.Url

theorem mem_segmentSet (url : Url) : '%' ∈ url.segmentSet := by
  rw [segmentSet]
  split <;> decide

namespace Path

/-- The characters of a segment that are left when it is appended, or none if it is skipped. -/
def standing (segment : String) : Option (List Char) :=
  if segment == "." || segment == ".." then none
  else some (segment.toList.filter (!isTabOrBreak ·))

/-- The bytes that a segment stands for. -/
def bytes (segment : String) : List UInt8 := Percent.decode segment.toList

/-- What a segment is appended to: the only segment of a path makes room if it is empty. -/
def room (segments : List String) : List String := if segments == [""] then [] else segments

theorem room_of_ne {segments : List String} (other : segments ≠ [""]) : room segments = segments :=
  if_neg fun only => other (beq_iff_eq.mp only)

theorem room_of_length {segments : List String} (several : 1 < segments.length) :
    room segments = segments := by
  refine room_of_ne ?_
  rintro rfl
  exact absurd several (by decide)

/-- A segment stands in a path as it is. -/
def Plain (set : List Char) (segment : String) : Prop :=
  ∀ c ∈ segment.toList, c ≠ '.' ∧ isTabOrBreak c = false ∧
    (Percent.isControl c || set.contains c) = false

theorem push_eq (set : List Char) (segments : List String) (segment : String) :
    push set segments segment = match standing segment with
      | none => segments
      | some ['.'] => room segments ++ [""]
      | some ['.', '.'] => leave (room segments) ++ [""]
      | some text => room segments ++ [String.ofList (Percent.encode set text)] := by
  rw [push, standing, room]
  split
  · rfl
  · dsimp only
    generalize segment.toList.filter (!isTabOrBreak ·) = text
    generalize (if segments == [""] then [] else segments) = kept
    split
    · rfl
    · rfl
    · next text notHere notAbove =>
        split
        · next none => cases none
        · next dot => exact absurd (Option.some.inj dot) notHere
        · next dots => exact absurd (Option.some.inj dots) notAbove
        · next same => rw [Option.some.inj same]

/-- Lower-case letters and digits. -/
def lowers : List Char := "0123456789abcdefghijklmnopqrstuvwxyz".toList

/-- Lower-case letters and digits stand as they are in the path of any URL. -/
theorem plain_of_lower (url : Url) {segment : String}
    (lower : segment.toList.all (lowers.contains ·) = true) : Plain url.segmentSet segment := by
  have all : lowers.all (fun c => c ≠ '.' ∧ isTabOrBreak c = false ∧
      (Percent.isControl c || url.segmentSet.contains c) = false) = true := by
    rw [segmentSet]
    split <;> decide
  intro c inside
  have among : c ∈ lowers := List.contains_iff_mem.mp (List.all_eq_true.mp lower c inside)
  exact of_decide_eq_true (List.all_eq_true.mp all c among)

section Standing
variable {segment : String}

theorem standing_eq_some {text : List Char} (own : standing segment = some text) :
    text = segment.toList.filter (!isTabOrBreak ·) := by
  rw [standing] at own
  split at own
  · cases own
  · exact (Option.some.inj own).symm

/-- All of a segment is left unless it stands for a place or has tabs or line ends. -/
theorem standing_eq_self_iff : standing segment = some segment.toList ↔
    segment ≠ "." ∧ segment ≠ ".." ∧ ∀ c ∈ segment.toList, isTabOrBreak c = false := by
  rw [standing]
  split
  · next dots =>
      refine iff_of_false nofun fun ⟨here, above, _⟩ => ?_
      simp [here, above] at dots
  · next other =>
      have apart : segment ≠ "." ∧ segment ≠ ".." := by simpa using other
      simp [List.filter_eq_self, apart]

theorem nonempty_of_standing (nonblank : Blank.trim segment ≠ "") :
    standing segment ≠ some [] := by
  intro none
  have blank : ∀ c ∈ segment.toList, Blank.isBlank c = true := by
    intro c inside
    have dropped : isTabOrBreak c = true := by
      simpa using List.filter_eq_nil_iff.mp (standing_eq_some none).symm c inside
    simp only [isTabOrBreak, Bool.or_eq_true, beq_iff_eq] at dropped
    rcases dropped with (rfl | rfl) | rfl <;> decide
  refine nonblank ?_
  rw [Blank.trim, List.dropWhile_eq_nil_iff.mpr blank]
  rfl

end Standing

section Plain
variable {set : List Char}

theorem push_plain (segments : List String) {segment : String} (plain : Plain set segment) :
    push set segments segment = room segments ++ [segment] := by
  have here : (segment == "." || segment == "..") = false := by
    rw [Bool.or_eq_false_iff, beq_eq_false_iff_ne, beq_eq_false_iff_ne]
    constructor <;> rintro rfl
    · exact absurd rfl (plain '.' (by decide)).1
    · exact absurd rfl (plain '.' (by decide)).1
  have clean : segment.toList.filter (!isTabOrBreak ·) = segment.toList :=
    List.filter_eq_self.mpr fun c inside => by rw [(plain c inside).2.1]; rfl
  have own : standing segment = some segment.toList := by
    rw [standing, here, if_neg Bool.false_ne_true, clean]
  have text : String.ofList (Percent.encode set segment.toList) = segment := by
    rw [Percent.encode_of_plain fun c inside => (plain c inside).2.2, String.ofList_toList]
  rw [push_eq, own]
  split
  · next none => cases none
  · next dot => exact absurd rfl (plain '.' (by rw [Option.some.inj dot]; decide)).1
  · next dots => exact absurd rfl (plain '.' (by rw [Option.some.inj dots]; decide)).1
  · next same => rw [← Option.some.inj same, text]

theorem bytes_plain (marks : '%' ∈ set) {segment : String} (plain : Plain set segment) :
    bytes segment = utf8 segment := by
  rw [bytes, utf8, ← Percent.decode_encode marks,
    Percent.encode_of_plain fun c inside => (plain c inside).2.2]

theorem foldl_push_plain {segments : List String} (plain : ∀ segment ∈ segments, Plain set segment)
    {kept : List String} (nonempty : kept ≠ []) (full : room kept = kept) :
    segments.foldl (push set) kept = kept ++ segments := by
  induction segments generalizing kept with
  | nil => exact (List.append_nil kept).symm
  | cons segment rest ih =>
      obtain ⟨own, plain⟩ := List.forall_mem_cons.mp plain
      have longer : room (kept ++ [segment]) = kept ++ [segment] :=
        room_of_length (by simpa [List.length_pos_iff] using nonempty)
      rw [List.foldl_cons, push_plain kept own, full,
        ih plain (List.append_ne_nil_of_right_ne_nil kept (List.cons_ne_nil segment [])) longer,
        List.append_assoc, List.singleton_append]

end Plain

end Path
end CachePurge.Url
