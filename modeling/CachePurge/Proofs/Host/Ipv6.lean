import CachePurge.Host.Ipv6
import CachePurge.Proofs.Text.Joined

/-!
The text of an IPv6 address is read as that address, also where it leaves out a run of zeros.
-/

namespace CachePurge.Ipv6

theorem not_mem_toDigits {n : Nat} {c : Char} (other : Hex.isDigit c = false) :
    c ∉ Nat.toDigits 16 n := by
  intro inside
  rw [Hex.isDigit_of_mem_toDigits inside] at other
  exact absurd other (by decide)

/-- The groups as labels of hexadecimal digits. -/
def digits (groups : List UInt16) : List (List Char) :=
  groups.map fun g => Nat.toDigits 16 g.toNat

theorem joinGroups_eq (groups : List UInt16) :
    joinGroups groups = List.intercalate [':'] (digits groups) := rfl

theorem mem_digits {groups : List UInt16} {label : List Char} (among : label ∈ digits groups) :
    label ≠ [] ∧ ':' ∉ label ∧ '.' ∉ label := by
  obtain ⟨g, -, rfl⟩ := List.mem_map.mp among
  exact ⟨Nat.toDigits_ne_nil, not_mem_toDigits (by decide), not_mem_toDigits (by decide)⟩

theorem group?_toDigits (g : UInt16) : group? (Nat.toDigits 16 g.toNat) = some g.toNat := by
  have short : (Nat.toDigits 16 g.toNat).length ≤ 4 :=
    (Nat.length_toDigits_le_iff (by decide) (by decide)).mpr g.toNat_lt
  have some_ : (Nat.toDigits 16 g.toNat).isEmpty = false := by
    rw [List.isEmpty_eq_false_iff]
    exact Nat.toDigits_ne_nil
  rw [group?, some_, decide_eq_false (Nat.not_lt.mpr short), Bool.or_self,
    if_neg Bool.false_ne_true, Hex.toNat?_toDigits]

theorem pieces?_digits (groups : List UInt16) :
    pieces? (digits groups) = some (groups.map UInt16.toNat) := by
  induction groups with
  | nil => rfl
  | cons g rest ih =>
      cases rest with
      | nil =>
          have plain : (Nat.toDigits 16 g.toNat).contains '.' = false := by
            rw [List.contains_eq_mem, decide_eq_false (not_mem_toDigits (by decide))]
          change (if (Nat.toDigits 16 g.toNat).contains '.' then _ else _) = _
          rw [plain, if_neg Bool.false_ne_true, group?_toDigits]
          rfl
      | cons next rest =>
          change (do return (← group? (Nat.toDigits 16 g.toNat)) ::
            (← pieces? (digits (next :: rest)))) = _
          rw [group?_toDigits, ih]
          rfl

theorem joinGroups_cons_ne_nil (g : UInt16) (rest : List UInt16) : joinGroups (g :: rest) ≠ [] := by
  intro empty
  have none_ : Nat.toDigits 16 g.toNat = [] := by
    cases rest with
    | nil => exact List.intercalate_singleton.symm.trans empty
    | cons next rest =>
        rw [joinGroups_eq, digits, List.map_cons, List.map_cons,
          List.intercalate_cons_cons] at empty
        exact (List.append_eq_nil_iff.mp (List.append_eq_nil_iff.mp empty).1).1
  exact Nat.toDigits_ne_nil none_

theorem groups?_joinGroups (groups : List UInt16) :
    groups? (joinGroups groups) = some (groups.map UInt16.toNat) := by
  cases groups with
  | nil => rfl
  | cons g rest =>
      have text : (joinGroups (g :: rest)).isEmpty = false :=
        List.isEmpty_eq_false_iff.mpr (joinGroups_cons_ne_nil g rest)
      have split : (joinGroups (g :: rest)).splitOn ':' = digits (g :: rest) :=
        List.splitOn_intercalate ':' (fun label among => (mem_digits among).2.1)
          (List.cons_ne_nil _ _)
      rw [groups?, text, if_neg Bool.false_ne_true, split, pieces?_digits]

def prefixed (front : List Char) (parts : List Char × List Char) : List Char × List Char :=
  (front ++ parts.1, parts.2)

theorem splitElision_append_of_not_mem {label : List Char} (plain : ':' ∉ label)
    (tail : List Char) :
    splitElision (label ++ tail) = (splitElision tail).map (prefixed label) := by
  induction label with
  | nil =>
      change _ = (splitElision tail).map id
      rw [Option.map_id]
      rfl
  | cons c rest ih =>
      rw [List.cons_append, splitElision, ih (List.not_mem_of_not_mem_cons plain), Option.map_map]
      · rfl
      · rintro _ rfl
        exact absurd List.mem_cons_self plain

theorem splitElision_append {labels : List (List Char)}
    (plain : ∀ label ∈ labels, label ≠ [] ∧ ':' ∉ label) (tail : List Char) :
    splitElision (List.intercalate [':'] labels ++ tail) =
      (splitElision tail).map (prefixed (List.intercalate [':'] labels)) := by
  induction labels with
  | nil => exact splitElision_append_of_not_mem List.not_mem_nil tail
  | cons label rest ih =>
      obtain ⟨⟨-, own⟩, plain⟩ := List.forall_mem_cons.mp plain
      cases rest with
      | nil =>
          rw [List.intercalate_singleton]
          exact splitElision_append_of_not_mem own tail
      | cons next rest =>
          obtain ⟨⟨begun, other⟩, -⟩ := List.forall_mem_cons.mp plain
          obtain ⟨c, more, rfl⟩ := List.exists_cons_of_ne_nil begun
          have single : c ≠ ':' := by
            rintro rfl
            exact other List.mem_cons_self
          specialize ih plain
          rw [List.intercalate_cons_cons, List.append_assoc, List.append_assoc,
            splitElision_append_of_not_mem own, List.singleton_append]
          rw [List.intercalate_cons_cons_left, List.cons_append] at ih ⊢
          rw [splitElision, ih, Option.map_map, Option.map_map]
          · refine congrArg (Option.map · _) (funext fun parts => ?_)
            simp [prefixed]
          · intro _ _ same
            exact absurd (List.cons.inj same).1 single

theorem splitElision_joinGroups (groups : List UInt16) (tail : List Char) :
    splitElision (joinGroups groups ++ tail) =
      (splitElision tail).map (prefixed (joinGroups groups)) :=
  splitElision_append (fun _ among => ⟨(mem_digits among).1, (mem_digits among).2.1⟩) tail

theorem mem_zeroRuns {groups : List UInt16} {i : Nat} {run : Nat × Nat}
    (among : run ∈ zeroRuns i groups) :
    i ≤ run.1 ∧ ((groups.drop (run.1 - i)).takeWhile (· == 0)).length = run.2 := by
  induction groups generalizing i with
  | nil => exact absurd among List.not_mem_nil
  | cons g rest ih =>
      cases List.mem_cons.mp among with
      | inl same =>
          subst same
          exact ⟨Nat.le_refl i, by rw [Nat.sub_self, List.drop_zero]⟩
      | inr later =>
          obtain ⟨after, length⟩ := ih later
          refine ⟨by omega, ?_⟩
          rw [show run.1 - i = run.1 - (i + 1) + 1 by omega, List.drop_succ_cons]
          exact length

theorem elided_mem {address : Ipv6} {run : Nat × Nat} (left : elided address = some run) :
    run ∈ zeroRuns 0 address.toList ∧ 2 ≤ run.2 := by
  rw [elided] at left
  revert left
  refine List.foldlRecOn
    (motive := fun best => best = some run → run ∈ zeroRuns 0 address.toList ∧ 2 ≤ run.2)
    _ _ nofun ?_
  intro best known next among chosen
  by_cases short : next.2 < 2
  · rw [if_pos short] at chosen
    exact known chosen
  · rw [if_neg short] at chosen
    have new : next = run → run ∈ zeroRuns 0 address.toList ∧ 2 ≤ run.2 := by
      rintro rfl
      exact ⟨among, by omega⟩
    cases best with
    | none => exact new (Option.some.inj chosen)
    | some best =>
        by_cases longer : best.2 < next.2
        · simp only [if_pos longer] at chosen
          exact new (Option.some.inj chosen)
        · simp only [if_neg longer] at chosen
          exact known chosen

theorem eq_zeros_append_drop {groups : List UInt16} {count : Nat}
    (length : (groups.takeWhile (· == 0)).length = count) :
    groups = List.replicate count 0 ++ groups.drop count := by
  subst length
  induction groups with
  | nil => rfl
  | cons g rest ih =>
      by_cases zero : g = 0
      · rw [List.takeWhile_cons_of_pos (p := (· == 0)) (beq_iff_eq.mpr zero), List.length_cons,
          List.replicate_succ, List.drop_succ_cons, List.cons_append, ← ih, zero]
      · rw [List.takeWhile_cons_of_neg (p := (· == 0)) (mt beq_iff_eq.mp zero)]
        rfl

theorem elided_zeros {address : Ipv6} {first count : Nat}
    (left : elided address = some (first, count)) :
    2 ≤ count ∧ address.toList = address.toList.take first ++
      List.replicate count 0 ++ address.toList.drop (first + count) := by
  obtain ⟨among, long⟩ := elided_mem left
  obtain ⟨-, length⟩ := mem_zeroRuns among
  refine ⟨long, ?_⟩
  rw [Nat.sub_zero] at length
  have rest := eq_zeros_append_drop length
  rw [List.drop_drop] at rest
  rw [List.append_assoc, ← rest, List.take_append_drop]

theorem allGroups?_toText (address : Ipv6) :
    allGroups? (toText address) = some (address.toList.map UInt16.toNat) := by
  rw [toText]
  cases left : elided address with
  | none =>
      have whole : splitElision (joinGroups address.toList) = none := by
        rw [← List.append_nil (joinGroups address.toList), splitElision_joinGroups]
        rfl
      simp only [allGroups?, whole]
      exact groups?_joinGroups address.toList
  | some run =>
      obtain ⟨first, count⟩ := run
      obtain ⟨long, whole⟩ := elided_zeros left
      change allGroups? (joinGroups (address.toList.take first) ++ [':', ':'] ++
        joinGroups (address.toList.drop (first + count))) = _
      generalize address.toList.take first = front at whole ⊢
      generalize address.toList.drop (first + count) = back at whole ⊢
      have parts : splitElision (joinGroups front ++ [':', ':'] ++ joinGroups back) =
          some (joinGroups front, joinGroups back) := by
        rw [List.append_assoc, splitElision_joinGroups]
        change some (joinGroups front ++ [], joinGroups back) = _
        rw [List.append_nil]
      have plain : (joinGroups front).contains '.' = false := by
        rw [List.contains_eq_mem, decide_eq_false]
        intro inside
        cases mem_of_mem_intercalate inside with
        | inl dot => exact absurd dot (by decide)
        | inr found =>
            obtain ⟨label, among, own⟩ := found
            exact (mem_digits among).2.2 own
      have size : front.length + count + back.length = 8 := by
        have := congrArg List.length whole
        rw [Vector.length_toList, List.length_append, List.length_append,
          List.length_replicate] at this
        exact this.symm
      have fits : ¬7 < (front.map UInt16.toNat).length + (back.map UInt16.toNat).length := by
        rw [List.length_map, List.length_map]
        omega
      have gap : 8 - (front.map UInt16.toNat).length - (back.map UInt16.toNat).length = count := by
        rw [List.length_map, List.length_map]
        omega
      simp only [allGroups?, parts, plain, groups?_joinGroups, Bool.false_eq_true, if_false,
        Option.bind_eq_bind, Option.bind_some, if_neg fits, gap, Option.pure_def]
      rw [whole, List.map_append, List.map_append, List.map_replicate]
      rfl

theorem parse?_toText (address : Ipv6) : parse? (toText address) = some address := by
  have size : (address.toList.map UInt16.toNat).length = 8 := by
    rw [List.length_map, Vector.length_toList]
  have own : (address.toList.map UInt16.toNat).map Nat.toUInt16 = address.toList := by
    rw [List.map_map]
    exact List.map_id'' (fun g => UInt16.ofNat_toNat) _
  simp only [parse?, allGroups?_toText, Option.bind_eq_bind, Option.bind_some, dif_pos size, own,
    Option.pure_def]
  rfl

end CachePurge.Ipv6
