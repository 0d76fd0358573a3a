import CachePurge.Settings.Variable
import Mathlib.Data.List.Induction

/-!
Which fields variables stand for. A name that begins with a mark stands for the field that is left
of it in lower case once the mark is taken off as often as it is repeated. What is given for a field
are the values of the variables that stand for it, in their order.
-/

namespace CachePurge
namespace Variable

section Strip
variable {mark text rest : List Char}

theorem strip_of_not_prefix (plain : ¬mark <+: text) : strip mark text = text := by
  rw [strip]
  split
  · rfl
  · rw [if_neg (plain ∘ List.isPrefixOf_iff_prefix.mp)]

theorem strip_append (marked : mark ≠ []) : strip mark (mark ++ rest) = strip mark rest := by
  rw [strip, if_neg (by simpa using marked), if_pos (by simp), List.drop_left]

theorem strip_repeated (marked : mark ≠ []) (plain : ¬mark <+: rest) (n : Nat) :
    strip mark ((List.replicate n mark).flatten ++ rest) = rest := by
  induction n with
  | zero => exact strip_of_not_prefix plain
  | succ n ih =>
      rw [List.replicate_succ, List.flatten_cons, List.append_assoc, strip_append marked, ih]

theorem exists_repeated (marked : mark ≠ []) (text : List Char) :
    ∃ n, text = (List.replicate n mark).flatten ++ strip mark text ∧
      ¬mark <+: strip mark text := by
  fun_induction strip mark text with
  | case1 _ empty => exact absurd (List.isEmpty_iff.mp empty) marked
  | case2 text _ front ih =>
      obtain ⟨n, repeated, plain⟩ := ih
      obtain ⟨rest, rfl⟩ := List.isPrefixOf_iff_prefix.mp front
      rw [List.drop_left] at repeated plain ⊢
      refine ⟨n + 1, ?_, plain⟩
      rw [List.replicate_succ, List.flatten_cons, List.append_assoc, ← repeated]
  | case3 text _ plain => exact ⟨0, rfl, plain ∘ List.isPrefixOf_iff_prefix.mpr⟩

end Strip

/-- The name of a variable is a mark, perhaps repeated, and then a text that the mark does not begin
and that is the name of a field in lower case. -/
def StandsFor (mark : String) (v : Variable) (field : String) : Prop :=
  ∃ (n : Nat) (rest : String), v.name = String.join (List.replicate (n + 1) mark) ++ rest ∧
    ¬mark.toList <+: rest.toList ∧ Unicode.toLower rest = field

section Reduce
variable {mark : String} {v : Variable} {e : Entry}

theorem toList_join_replicate (n : Nat) (text : String) :
    (String.join (List.replicate n text)).toList = (List.replicate n text.toList).flatten := by
  rw [String.toList_join, List.flatMap_def, List.map_replicate]

theorem reduce?_eq_some (marked : mark ≠ "") : reduce? mark v = some e ↔
    (∃ n, v.name = String.join (List.replicate (n + 1) mark) ++ e.given) ∧
      ¬mark.toList <+: e.given.toList ∧ e.field = Unicode.toLower e.given ∧ e.value = v.value := by
  have some_ : mark.toList ≠ [] := by simpa using marked
  constructor
  · intro reduced
    rw [reduce?] at reduced
    split at reduced
    · next front =>
        obtain rfl := Option.some.inj reduced
        obtain ⟨rest, named⟩ := List.isPrefixOf_iff_prefix.mp front
        obtain ⟨n, repeated, plain⟩ := exists_repeated some_ rest
        rw [← named, strip_append some_, String.toList_ofList]
        refine ⟨⟨n, String.toList_inj.mp ?_⟩, plain, rfl, rfl⟩
        rw [String.toList_append, toList_join_replicate, List.replicate_succ, List.flatten_cons,
          List.append_assoc, String.toList_ofList, ← repeated, named]
    · cases reduced
  · rintro ⟨⟨n, named⟩, plain, own, value⟩
    have written : v.name.toList =
        mark.toList ++ ((List.replicate n mark.toList).flatten ++ e.given.toList) := by
      rw [named, String.toList_append, toList_join_replicate, List.replicate_succ,
        List.flatten_cons, List.append_assoc]
    have whole : e = ⟨e.given, Unicode.toLower e.given, v.value⟩ := by rw [← own, ← value]
    rw [whole, reduce?, written, if_pos (List.isPrefixOf_iff_prefix.mpr (List.prefix_append _ _)),
      strip_append some_, strip_repeated some_ plain, String.ofList_toList]

theorem standsFor_iff (marked : mark ≠ "") {field : String} :
    v.StandsFor mark field ↔ ∃ e, reduce? mark v = some e ∧ e.field = field := by
  simp only [reduce?_eq_some marked]
  constructor
  · rintro ⟨n, rest, named, plain, rfl⟩
    exact ⟨⟨rest, _, v.value⟩, ⟨⟨n, named⟩, plain, rfl, rfl⟩, rfl⟩
  · rintro ⟨e, ⟨⟨n, named⟩, plain, own, -⟩, rfl⟩
    exact ⟨n, e.given, named, plain, own.symm⟩

end Reduce

/-- The values that entries have for a field. -/
def valuesOf (field : String) (entries : List Entry) : List String :=
  (entries.filter (·.field == field)).map (·.value)

theorem valuesOf_cons_of_eq {field : String} {e : Entry} (own : e.field = field)
    (entries : List Entry) :
    valuesOf field (e :: entries) = e.value :: valuesOf field entries := by
  rw [valuesOf, List.filter_cons_of_pos (by simpa using own), List.map_cons, valuesOf]

theorem valuesOf_cons_of_ne {field : String} {e : Entry} (other : e.field ≠ field)
    (entries : List Entry) : valuesOf field (e :: entries) = valuesOf field entries := by
  rw [valuesOf, List.filter_cons_of_neg (by simpa using other), valuesOf]

/-- The values that variables have for a field. -/
def given (mark field : String) (vars : List Variable) : List String :=
  valuesOf field (entries mark vars)

section Given
variable {mark field : String} {vars vars' : List Variable} {v : Variable}

theorem given_append (vars vars' : List Variable) :
    given mark field (vars ++ vars') = given mark field vars ++ given mark field vars' := by
  rw [given, entries, List.filterMap_append, valuesOf, List.filter_append, List.map_append]
  rfl

theorem given_perm (perm : vars.Perm vars') :
    (given mark field vars).Perm (given mark field vars') :=
  ((perm.filterMap _).filter _).map _

theorem given_sublist (part : vars.Sublist vars') :
    (given mark field vars).Sublist (given mark field vars') :=
  ((part.filterMap _).filter _).map _

variable (marked : mark ≠ "")
include marked

theorem given_cons_of_standsFor (own : v.StandsFor mark field) (vars : List Variable) :
    given mark field (v :: vars) = v.value :: given mark field vars := by
  obtain ⟨e, reduced, named⟩ := (standsFor_iff marked).mp own
  obtain ⟨-, -, -, value⟩ := (reduce?_eq_some marked).mp reduced
  rw [given, entries, List.filterMap_cons_some reduced, valuesOf_cons_of_eq named, value]
  rfl

theorem given_cons_of_not (other : ¬v.StandsFor mark field) (vars : List Variable) :
    given mark field (v :: vars) = given mark field vars := by
  rw [given, entries]
  cases reduced : reduce? mark v with
  | none => rw [List.filterMap_cons_none reduced]; rfl
  | some e =>
      have differ : e.field ≠ field := fun same =>
        other ((standsFor_iff marked).mpr ⟨e, reduced, same⟩)
      rw [List.filterMap_cons_some reduced, valuesOf_cons_of_ne differ]
      rfl

theorem given_eq_nil_iff :
    given mark field vars = [] ↔ ∀ v ∈ vars, ¬v.StandsFor mark field := by
  induction vars with
  | nil => exact iff_of_true rfl nofun
  | cons v vars ih =>
      rw [List.forall_mem_cons]
      by_cases own : v.StandsFor mark field
      · rw [given_cons_of_standsFor marked own]
        exact iff_of_false (List.cons_ne_nil _ _) fun both => both.1 own
      · rw [given_cons_of_not marked own, ih]
        exact (and_iff_right own).symm

theorem mem_given_of_mem (inside : v ∈ vars) (own : v.StandsFor mark field) :
    v.value ∈ given mark field vars := by
  obtain ⟨before, after, rfl⟩ := List.append_of_mem inside
  rw [given_append, given_cons_of_standsFor marked own]
  exact List.mem_append_right _ List.mem_cons_self

/-- What is given last is the value of the last variable that stands for the field. -/
theorem getLast?_given_eq_some {value : String} : (given mark field vars).getLast? = some value ↔
    ∃ before v after, vars = before ++ v :: after ∧ v.StandsFor mark field ∧ v.value = value ∧
      ∀ w ∈ after, ¬w.StandsFor mark field := by
  constructor
  · intro last
    induction vars using List.reverseRecOn with
    | nil => cases last
    | append_singleton vars v ih =>
        rw [given_append] at last
        by_cases own : v.StandsFor mark field
        · rw [given_cons_of_standsFor marked own, show given mark field [] = [] from rfl,
            List.getLast?_concat] at last
          exact ⟨vars, v, [], rfl, own, Option.some.inj last, nofun⟩
        · rw [given_cons_of_not marked own, show given mark field [] = [] from rfl,
            List.append_nil] at last
          obtain ⟨before, w, after, rfl, stands, value, none_⟩ := ih last
          refine ⟨before, w, after ++ [v], by simp, stands, value, ?_⟩
          exact List.forall_mem_append.mpr ⟨none_, List.forall_mem_singleton.mpr own⟩
  · rintro ⟨before, v, after, rfl, own, rfl, none_⟩
    rw [given_append, given_cons_of_standsFor marked own, (given_eq_nil_iff marked).mpr none_,
      List.getLast?_concat]

theorem two_le_length_given : 2 ≤ (given mark field vars).length ↔
    ∃ v w, [v, w].Sublist vars ∧ v.StandsFor mark field ∧ w.StandsFor mark field := by
  constructor
  · intro two
    induction vars with
    | nil => cases two
    | cons v vars ih =>
        by_cases own : v.StandsFor mark field
        · rw [given_cons_of_standsFor marked own, List.length_cons, Nat.succ_le_succ_iff] at two
          have some_ : given mark field vars ≠ [] := List.ne_nil_of_length_pos two
          rw [Ne, given_eq_nil_iff marked] at some_
          push Not at some_
          obtain ⟨w, inside, stands⟩ := some_
          exact ⟨v, w, (List.singleton_sublist.mpr inside).cons_cons v, own, stands⟩
        · rw [given_cons_of_not marked own] at two
          obtain ⟨w, w', part, stands⟩ := ih two
          exact ⟨w, w', part.cons v, stands⟩
  · rintro ⟨v, w, part, own, own'⟩
    have both : (given mark field [v, w]).length ≤ (given mark field vars).length :=
      (given_sublist part).length_le
    rwa [given_cons_of_standsFor marked own, given_cons_of_standsFor marked own'] at both

end Given
end Variable
end CachePurge
