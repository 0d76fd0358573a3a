import CachePurge.Json.Record

/-!
Fields of a record read back: a number below `2^64` and a list of texts are what was written.
-/

namespace CachePurge.Json

@[simp] theorem asNatural?_ofNat (n : UInt64) : asNatural? (ofNat n.toNat) = some n := by
  rw [ofNat, asNatural?, if_pos n.toNat_lt, Nat.toUInt64, UInt64.ofNat_toNat]

@[simp] theorem asStrings?_ofStrings (texts : List String) :
    asStrings? (ofStrings texts) = some texts := by
  rw [ofStrings, asStrings?]
  induction texts with
  | nil => rfl
  | cons text texts ih =>
      rw [List.map_cons, List.mapM_cons, ih]
      rfl

theorem textMembers_cons (text : String × String) (texts : List (String × String)) :
    textMembers (text :: texts) = (text.1, .string text.2) :: textMembers texts := rfl

/-- A member put among others, in the place of the one of its name if there is one. -/
def put (kept : List (String × Json)) (m : String × Json) : List (String × Json) :=
  if kept.any (·.1 == m.1) then kept.map fun k => if k.1 == m.1 then m else k else kept ++ [m]

theorem distinct_eq_foldl (members : List (String × Json)) :
    distinct members = members.foldl put [] := rfl

theorem put_of_fresh {kept : List (String × Json)} {m : String × Json}
    (fresh : ∀ k ∈ kept, k.1 ≠ m.1) : put kept m = kept ++ [m] := by
  rw [put, if_neg]
  intro any
  obtain ⟨k, inside, own⟩ := List.any_eq_true.mp any
  exact fresh k inside (beq_iff_eq.mp own)

theorem put_of_first {first m : String × Json} {front : List (String × Json)}
    (own : first.1 = m.1) (others : ∀ k ∈ front, k.1 ≠ m.1) :
    put (first :: front) m = m :: front := by
  have unchanged : front.map (fun k => if k.1 == m.1 then m else k) = front.map id :=
    List.map_congr_left fun k inside => if_neg (by simpa using others k inside)
  rw [put, if_pos (by simp [own]), List.map_cons, if_pos (by simpa using own), unchanged,
    List.map_id]

/-- Members of different names go to the end, but the one of the first member's name takes its
place. -/
theorem foldl_put {first : String × Json} {front rest : List (String × Json)}
    (fresh : ∀ k ∈ front, k.1 ≠ first.1 ∧ ∀ m ∈ rest, k.1 ≠ m.1)
    (once : rest.Pairwise fun a b => a.1 ≠ b.1) :
    rest.foldl put (first :: front) =
      (rest.find? (·.1 == first.1)).getD first :: (front ++ rest.filter (·.1 != first.1)) := by
  induction rest generalizing first front with
  | nil => simp
  | cons m rest ih =>
      obtain ⟨differ, once⟩ := List.pairwise_cons.mp once
      rw [List.foldl_cons]
      by_cases own : first.1 = m.1
      · have alone : rest.find? (·.1 == m.1) = none :=
          List.find?_eq_none.mpr fun r inside => by simpa using (differ r inside).symm
        have others : ∀ k ∈ front, k.1 ≠ m.1 := fun k inside => own ▸ (fresh k inside).1
        have fresh' : ∀ k ∈ front, k.1 ≠ m.1 ∧ ∀ r ∈ rest, k.1 ≠ r.1 := fun k inside =>
          ⟨others k inside, (List.forall_mem_cons.mp (fresh k inside).2).2⟩
        rw [put_of_first own others, ih fresh' once, alone, own, List.find?_cons_of_pos (by simp),
          List.filter_cons_of_neg (by simp)]
        rfl
      · have others : ∀ k ∈ first :: front, k.1 ≠ m.1 := List.forall_mem_cons.mpr
          ⟨own, fun k inside => (List.forall_mem_cons.mp (fresh k inside).2).1⟩
        have fresh' : ∀ k ∈ front ++ [m], k.1 ≠ first.1 ∧ ∀ r ∈ rest, k.1 ≠ r.1 := by
          intro k inside
          rcases List.mem_append.mp inside with inside | inside
          · exact ⟨(fresh k inside).1, (List.forall_mem_cons.mp (fresh k inside).2).2⟩
          · rw [List.mem_singleton.mp inside]
            exact ⟨Ne.symm own, differ⟩
        rw [put_of_fresh others, List.cons_append, ih fresh' once,
          List.find?_cons_of_neg (by simpa using Ne.symm own),
          List.filter_cons_of_pos (by simpa using Ne.symm own), List.append_assoc,
          List.singleton_append]

/-- Of members whose later names differ, the one of the first name counts in the first place. -/
theorem distinct_cons {first : String × Json} {rest : List (String × Json)}
    (once : rest.Pairwise fun a b => a.1 ≠ b.1) : distinct (first :: rest) =
      (rest.find? (·.1 == first.1)).getD first :: rest.filter (·.1 != first.1) := by
  have alone : put [] first = [first] := put_of_fresh nofun
  rw [distinct_eq_foldl, List.foldl_cons, alone]
  exact foldl_put nofun once

theorem distinct_textMembers {first : String × String} {rest : List (String × String)}
    (once : rest.Pairwise fun a b => a.1 ≠ b.1) : distinct (textMembers (first :: rest)) =
      textMembers ((rest.find? (·.1 == first.1)).getD first :: rest.filter (·.1 != first.1)) := by
  rw [textMembers, List.map_cons, distinct_cons (List.pairwise_map.mpr once), List.find?_map,
    List.filter_map, textMembers, List.map_cons]
  cases found : rest.find? (·.1 == first.1) <;> simp [Function.comp_def, found]

theorem member?_cons_of_fresh {name : String} {value : Json} {rest : List (String × Json)}
    (fresh : ∀ m ∈ rest, m.1 ≠ name) :
    member? (.object ((name, value) :: rest)) name = some value := by
  have none_ : rest.reverse.find? (·.1 == name) = none :=
    List.find?_eq_none.mpr fun m inside => by simpa using fresh m (List.mem_reverse.mp inside)
  rw [member?, List.reverse_cons, List.find?_append, none_]
  simp

end CachePurge.Json
