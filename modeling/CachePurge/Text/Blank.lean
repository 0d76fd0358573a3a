/-!
Blank characters in the sense of Unicode, and texts without them at their ends.
-/

namespace CachePurge.Blank

/-- The characters with the property White_Space. -/
def isBlank (c : Char) : Bool :=
  let n := c.toNat
  (9 ≤ n && n ≤ 13) || (0x2000 ≤ n && n ≤ 0x200a) ||
    [0x20, 0x85, 0xa0, 0x1680, 0x2028, 0x2029, 0x202f, 0x205f, 0x3000].contains n

/-- The text without the blanks at its ends. -/
def trim (text : String) : String :=
  String.ofList ((text.toList.dropWhile isBlank).reverse.dropWhile isBlank).reverse

/-- A text without the blanks at its ends: they stand around it, and it has none there itself. -/
structure Trims (text left : String) : Prop where
  around : ∃ before after : List Char, text.toList = before ++ left.toList ++ after ∧
    ∀ c ∈ before ++ after, isBlank c = true
  first : ∀ c ∈ left.toList.head?, isBlank c = false
  last : ∀ c ∈ left.toList.getLast?, isBlank c = false

theorem of_mem_head?_dropWhile {p : Char → Bool} {text : List Char} {c : Char}
    (head : c ∈ (text.dropWhile p).head?) : p c = false := by
  have stopped := text.head?_dropWhile_not p
  rwa [Option.mem_def.mp head] at stopped

theorem trims_trim (text : String) : Trims text (trim text) := by
  have front := List.takeWhile_append_dropWhile (p := isBlank) (l := text.toList)
  generalize kept : text.toList.dropWhile isBlank = rest at front
  have back := congrArg List.reverse
    (List.takeWhile_append_dropWhile (p := isBlank) (l := rest.reverse))
  rw [List.reverse_append, List.reverse_reverse] at back
  have own : (trim text).toList = (rest.reverse.dropWhile isBlank).reverse := by
    rw [trim, String.toList_ofList, kept]
  refine ⟨⟨text.toList.takeWhile isBlank, (rest.reverse.takeWhile isBlank).reverse, ?_, ?_⟩,
    fun c head => ?_, fun c last => ?_⟩
  · rw [own, List.append_assoc, back, front]
  · intro c inside
    rw [List.mem_append, List.mem_reverse] at inside
    exact inside.elim (List.all_eq_true.mp List.all_takeWhile c)
      (List.all_eq_true.mp List.all_takeWhile c)
  · rw [own] at head
    have whole : c ∈ rest.head? := by
      rw [← back, List.head?_append, Option.mem_def.mp head]
      rfl
    rw [← kept] at whole
    exact of_mem_head?_dropWhile whole
  · rw [own, List.getLast?_reverse] at last
    exact of_mem_head?_dropWhile last

end CachePurge.Blank
