import CachePurge.Idna.Domain
import CachePurge.Proofs.Text.Ascii
import CachePurge.Proofs.Text.Joined

/-!
The ASCII form of a host name. It is made of ASCII characters that stay as they are and may stand
in a name, and a name that is made of them is its own ASCII form.
-/

namespace CachePurge

namespace Punycode

/-- Every character is a digit. -/
def Spelled (text : List Char) : Prop := ∀ c ∈ text, ∃ d < 36, c = digit d

theorem threshold_bounds (place bias : Nat) :
    1 ≤ threshold place bias ∧ threshold place bias ≤ 26 := by
  rw [threshold]
  omega

theorem writeNumber_spelled (n place bias : Nat) : Spelled (writeNumber n place bias) := by
  fun_induction writeNumber n place bias with
  | case1 n place t small =>
      obtain ⟨-, high⟩ := threshold_bounds place bias
      intro c inside
      exact ⟨n, by omega, List.mem_singleton.mp inside⟩
  | case2 n place t large ih =>
      obtain ⟨-, high⟩ := threshold_bounds place bias
      intro c inside
      cases List.mem_cons.mp inside with
      | inl first =>
          have := Nat.mod_lt (n - t) (show 0 < 36 - t by omega)
          exact ⟨t + (n - t) % (36 - t), by omega, first⟩
      | inr later => exact ih c later

theorem pass_spelled (basic n : Nat) {w : Writing} (spelled : Spelled w.digits) (c : Nat) :
    Spelled (w.pass basic n c).digits := by
  rw [Writing.pass]
  split
  · exact spelled
  · split
    · intro d inside
      cases List.mem_append.mp inside with
      | inl before => exact spelled d before
      | inr new => exact writeNumber_spelled _ _ _ d new
    · exact spelled

theorem foldl_pass_spelled (basic n : Nat) (cs : List Nat) {w : Writing}
    (spelled : Spelled w.digits) : Spelled (cs.foldl (Writing.pass basic n) w).digits := by
  induction cs generalizing w with
  | nil => exact spelled
  | cons c rest ih => exact ih (pass_spelled basic n spelled c)

theorem writeFrom_spelled (cs : List Nat) (basic bound n : Nat) {w : Writing}
    (spelled : Spelled w.digits) : Spelled (writeFrom cs basic bound n w) := by
  induction bound generalizing n w with
  | zero => exact spelled
  | succ bound ih =>
      rw [writeFrom]
      split
      · exact spelled
      · refine ih _ ?_
        exact foldl_pass_spelled basic _ cs spelled

theorem mem_encode {cs : List Nat} {c : Char} (inside : c ∈ encode cs) :
    c = '-' ∨ (∃ n ∈ cs, n < 128 ∧ c = Char.ofNat n) ∨ ∃ d < 36, c = digit d := by
  cases List.mem_append.mp inside with
  | inl head =>
      split at head
      · exact absurd head List.not_mem_nil
      · cases List.mem_append.mp head with
        | inl ascii =>
            obtain ⟨n, among, rfl⟩ := List.mem_map.mp ascii
            obtain ⟨among, small⟩ := List.mem_filter.mp among
            exact .inr (.inl ⟨n, among, of_decide_eq_true small, rfl⟩)
        | inr hyphen => exact .inl (List.mem_singleton.mp hyphen)
  | inr tail =>
      have spelled : Spelled [] := fun _ none => absurd none List.not_mem_nil
      exact .inr (.inr (writeFrom_spelled _ _ _ _ spelled c tail))

end Punycode

namespace Idna

/-- An ASCII character that stays as it is and may stand in a host name. -/
def isSettled (c : Nat) : Bool := c < 128 && isValidCode c && !isForbidden c

theorem isSettled_iff {c : Nat} :
    isSettled c = true ↔ c < 128 ∧ isValidCode c = true ∧ isForbidden c = false := by
  rw [isSettled, Bool.and_eq_true, Bool.and_eq_true, decide_eq_true_iff, Bool.not_eq_true',
    and_assoc]

theorem toNat_ofNat_of_lt {n : Nat} (ascii : n < 128) : (Char.ofNat n).toNat = n := by
  rw [Char.ofNat, dif_pos (.inl (by omega))]
  rfl

theorem isSettled_digit : ∀ d < 36, isSettled (Punycode.digit d).toNat = true := by
  decide

/-- In ASCII the characters that stay as they are are those that letter case leaves alone. -/
theorem isValidCode_iff_toLower {c : Char} (ascii : c.toNat < 128) :
    isValidCode c.toNat = true ↔ c.toLower = c := by
  refine of_forall_ofNat (P := fun c => isValidCode c.toNat = true ↔ c.toLower = c) ?_ ascii
  decide +kernel

theorem toLower_toLower (c : Char) : c.toLower.toLower = c.toLower := by
  cases Nat.lt_or_ge c.toNat 128 with
  | inl ascii =>
      refine of_forall_ofNat (P := fun c => c.toLower.toLower = c.toLower) ?_ ascii
      decide +kernel
  | inr large => rw [toLower_of_large large, toLower_of_large large]

/-- The steps of mapping a name, from its characters to its written labels. -/
theorem mappedToAscii_eq_some {name out : List Char} (found : mappedToAscii name = some out) :
    ∃ mapped cs shown written, name.mapM (fun c => mapCode c.toNat) = some mapped ∧
      cs = Unicode.normalize mapped.flatten ∧ cs.any isForbidden = false ∧
      (cs.splitOn 46).mapM shownLabel = some shown ∧
      (cs.splitOn 46).mapM writeLabel = some written ∧ out = List.intercalate ['.'] written := by
  rw [mappedToAscii] at found
  obtain ⟨mapped, codes, found⟩ := Option.bind_eq_some_iff.mp found
  dsimp only at found
  split at found
  · exact nomatch found
  · next plain =>
      obtain ⟨shown, labels, found⟩ := Option.bind_eq_some_iff.mp found
      split at found
      · exact nomatch found
      · obtain ⟨written, texts, found⟩ := Option.bind_eq_some_iff.mp found
        exact ⟨mapped, _, shown, written, codes, rfl, Bool.eq_false_iff.mpr plain, labels, texts,
          (Option.some.inj found).symm⟩

theorem isValidCode_of_shownLabel {label shown : List Nat} (found : shownLabel label = some shown)
    {c : Nat} (inside : c ∈ label) : isValidCode c = true := by
  rw [shownLabel] at found
  split at found
  · exact nomatch found
  · next valid =>
      rw [Bool.not_eq_true, Bool.not_eq_false'] at valid
      exact List.all_eq_true.mp valid c inside

theorem writeLabel_settled {label : List Nat} {text : List Char}
    (valid : ∀ c ∈ label, isValidCode c = true) (plain : ∀ c ∈ label, isForbidden c = false)
    (written : writeLabel label = some text) : ∀ c ∈ text, isSettled c.toNat = true := by
  have ascii {n : Nat} (among : n ∈ label) (small : n < 128) :
      isSettled (Char.ofNat n).toNat = true := by
    rw [toNat_ofNat_of_lt small]
    exact isSettled_iff.mpr ⟨small, valid n among, plain n among⟩
  intro c inside
  rw [writeLabel] at written
  split at written
  · next small =>
      obtain rfl := Option.some.inj written
      obtain ⟨n, among, rfl⟩ := List.mem_map.mp inside
      exact ascii among (of_decide_eq_true (List.all_eq_true.mp small n among))
  · split at written
    · exact nomatch written
    · obtain rfl := Option.some.inj written
      cases List.mem_append.mp inside with
      | inl mark =>
          have all : (['x', 'n', '-', '-'].all fun c => isSettled c.toNat) = true := by decide
          exact List.all_eq_true.mp all c mark
      | inr own =>
          rcases Punycode.mem_encode own with rfl | ⟨n, among, small, rfl⟩ | ⟨d, small, rfl⟩
          · decide
          · exact ascii among small
          · exact isSettled_digit d small

theorem mappedToAscii_settled {name out : List Char} (found : mappedToAscii name = some out) :
    ∀ c ∈ out, isSettled c.toNat = true := by
  obtain ⟨mapped, cs, shown, written, -, -, plain, labels, texts, rfl⟩ :=
    mappedToAscii_eq_some found
  intro c inside
  cases mem_of_mem_intercalate inside with
  | inl same =>
      subst same
      decide
  | inr found =>
      obtain ⟨text, among, own⟩ := found
      obtain ⟨label, among, spelled⟩ := (mem_of_mapM_eq_some texts).2 text among
      obtain ⟨other, -, valid⟩ := (mem_of_mapM_eq_some labels).1 label among
      refine writeLabel_settled (fun c => isValidCode_of_shownLabel valid) (fun c own => ?_)
        spelled c own
      exact Bool.eq_false_iff.mpr (List.any_eq_false.mp plain c (mem_of_mem_splitOn among own))

theorem toAscii_settled {name out : List Char} (found : toAscii name = some out) :
    ∀ c ∈ out, isSettled c.toNat = true := by
  rw [toAscii] at found
  split at found
  · next lower =>
      split at found
      · exact nomatch found
      · next plain =>
          obtain rfl := Option.some.inj found
          intro c inside
          have ascii : c.toNat < 128 :=
            of_decide_eq_true (List.all_eq_true.mp (Bool.and_eq_true_iff.mp lower).1 c inside)
          obtain ⟨d, -, rfl⟩ := List.mem_map.mp inside
          refine isSettled_iff.mpr ⟨ascii, ?_, ?_⟩
          · exact (isValidCode_iff_toLower ascii).mpr (toLower_toLower d)
          · refine Bool.eq_false_iff.mpr fun bad => plain ?_
            exact List.any_eq_true.mpr ⟨_, inside, bad⟩
  · exact mappedToAscii_settled found

section Settled

variable {name : List Char} (settled : ∀ c ∈ name, isSettled c.toNat = true)
include settled

theorem map_toLower_of_settled : name.map Char.toLower = name := by
  refine (List.map_congr_left fun c inside => ?_).trans (List.map_id name)
  obtain ⟨ascii, valid, -⟩ := isSettled_iff.mp (settled c inside)
  exact (isValidCode_iff_toLower ascii).mp valid

theorem mapM_mapCode_of_settled :
    name.mapM (fun c => mapCode c.toNat) = some (name.map fun c => [c.toNat]) := by
  refine mapM_eq_map fun c inside => ?_
  obtain ⟨-, valid, -⟩ := isSettled_iff.mp (settled c inside)
  rw [mapCode, if_pos valid]

theorem normalize_of_settled : Unicode.normalize (name.map Char.toNat) = name.map Char.toNat := by
  refine if_pos (List.all_eq_true.mpr fun n inside => ?_)
  obtain ⟨c, among, rfl⟩ := List.mem_map.mp inside
  exact decide_eq_true (isSettled_iff.mp (settled c among)).1

theorem mappedToAscii_of_settled {out : List Char} (found : mappedToAscii name = some out) :
    out = name := by
  obtain ⟨mapped, cs, shown, written, codes, rfl, -, -, texts, rfl⟩ := mappedToAscii_eq_some found
  rw [mapM_mapCode_of_settled settled] at codes
  obtain rfl := Option.some.inj codes
  have flat : (name.map fun c => [c.toNat]).flatten = name.map Char.toNat := by
    rw [← List.flatMap_def, ← List.map_eq_flatMap]
  rw [flat, normalize_of_settled settled] at texts
  have same : ((name.map Char.toNat).splitOn 46).mapM writeLabel =
      some (((name.map Char.toNat).splitOn 46).map (List.map Char.ofNat)) := by
    refine mapM_eq_map fun label among => if_pos (List.all_eq_true.mpr fun n inside => ?_)
    obtain ⟨c, own, rfl⟩ := List.mem_map.mp (mem_of_mem_splitOn among inside)
    exact decide_eq_true (isSettled_iff.mp (settled c own)).1
  rw [same] at texts
  obtain rfl := Option.some.inj texts
  calc List.intercalate ['.'] (((name.map Char.toNat).splitOn 46).map (List.map Char.ofNat))
    _ = (List.intercalate [46] ((name.map Char.toNat).splitOn 46)).map Char.ofNat :=
        (map_intercalate Char.ofNat 46 _).symm
    _ = (name.map Char.toNat).map Char.ofNat := by rw [List.intercalate_splitOn]
    _ = name := by
        rw [List.map_map]
        exact List.map_id'' Char.ofNat_toNat name

theorem toAscii_of_settled {out : List Char} (found : toAscii name = some out) : out = name := by
  rw [toAscii] at found
  split at found
  · split at found
    · exact nomatch found
    · obtain rfl := Option.some.inj found
      exact map_toLower_of_settled settled
  · exact mappedToAscii_of_settled settled found

end Settled

end Idna
end CachePurge
