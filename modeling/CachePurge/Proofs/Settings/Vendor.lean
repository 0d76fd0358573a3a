import CachePurge.Proofs.Settings.Table
import CachePurge.Proofs.Settings.Variable

/-!
Settings of a vendor as variables give them. Whether there are any is asked of the names as they are
written, but what they are of the fields that the names stand for: the vendor must be given once
among those, and each other setting has the value that is given for it last.
-/

namespace CachePurge.VendorSettings

/-- The settings among some entries, added to a table. -/
def settle (table : SettingTable) (entries : List Entry) : SettingTable :=
  entries.foldl (fun table e =>
    if e.field = vendorField then table else table.insert e.field e.value) table

theorem settle_cons (table : SettingTable) (e : Entry) (entries : List Entry) :
    settle table (e :: entries) =
      settle (if e.field = vendorField then table else table.insert e.field e.value) entries :=
  rfl

theorem add_vendor {vendor : Option String} {table : SettingTable} {e : Entry}
    (own : e.field = vendorField) : add (vendor, table) e =
      if vendor.isSome then .error (.duplicate vendorField) else .ok (some e.value, table) := by
  rw [add, if_pos (by simpa using own)]

theorem add_setting {vendor : Option String} {table : SettingTable} {e : Entry}
    (other : e.field ≠ vendorField) :
    add (vendor, table) e = .ok (vendor, table.insert e.field e.value) := by
  rw [add, if_neg (by simpa using other)]

/-- Entries can be added as long as the vendor is given once at most, counting the one before. -/
theorem foldlM_add (entries : List Entry) (vendor : Option String) (table : SettingTable) :
    entries.foldlM add (vendor, table) =
      match vendor.toList ++ Variable.valuesOf vendorField entries with
      | _ :: _ :: _ => .error (.duplicate vendorField)
      | vendors => .ok (vendors.head?, settle table entries) := by
  induction entries generalizing vendor table with
  | nil => cases vendor <;> rfl
  | cons e entries ih =>
      rw [List.foldlM_cons, settle_cons]
      by_cases own : e.field = vendorField
      · rw [add_vendor own, if_pos own, Variable.valuesOf_cons_of_eq own]
        cases vendor with
        | none => exact ih (some e.value) table
        | some vendor => rfl
      · rw [add_setting own, if_neg own, Variable.valuesOf_cons_of_ne own]
        exact ih vendor _

theorem get?_settle (entries : List Entry) (table : SettingTable) {name : String}
    (other : name ≠ vendorField) : (settle table entries).get? name =
      (Variable.valuesOf name entries).getLast?.or (table.get? name) := by
  induction entries generalizing table with
  | nil => rfl
  | cons e entries ih =>
      rw [settle_cons, ih]
      by_cases own : e.field = name
      · rw [if_neg (own ▸ other), SettingTable.get?_insert, if_pos own,
          Variable.valuesOf_cons_of_eq own, List.getLast?_cons]
        cases (Variable.valuesOf name entries).getLast? <;> rfl
      · rw [Variable.valuesOf_cons_of_ne own]
        split
        · rfl
        · rw [SettingTable.get?_insert, if_neg own]

/-- The vendor is never among the settings that entries add. -/
theorem get?_settle_vendor (entries : List Entry) (table : SettingTable) :
    (settle table entries).get? vendorField = table.get? vendorField := by
  induction entries generalizing table with
  | nil => rfl
  | cons e entries ih =>
      rw [settle_cons, ih]
      split
      · rfl
      · next other => rw [SettingTable.get?_insert, if_neg other]

section Variables
variable {vars : List Variable}

theorem variableMark_ne_empty : variableMark ≠ "" := by decide

theorem standsFor_vendor {v : Variable} (named : v.name = vendorVariable) :
    v.StandsFor variableMark vendorField :=
  ⟨0, "VENDOR", named, by decide, by decide +kernel⟩

theorem ofVariables_of_unnamed (unnamed : ¬∃ v ∈ vars, v.name = vendorVariable) :
    ofVariables vars = .ok none := by
  have absent : vars.any (·.name == vendorVariable) = false :=
    List.any_eq_false.mpr fun v inside same => unnamed ⟨v, inside, beq_iff_eq.mp same⟩
  rw [ofVariables, absent]
  rfl

/-- If a vendor is named, what is given for the vendor decides whether it can be read. -/
theorem ofVariables_of_named (named : ∃ v ∈ vars, v.name = vendorVariable) :
    ofVariables vars =
      match Variable.given variableMark vendorField vars with
      | [vendor] => .ok (some ⟨vendor, settle ∅ (Variable.entries variableMark vars)⟩)
      | _ => .error (.duplicate vendorField) := by
  obtain ⟨v, inside, own⟩ := named
  have present : vars.any (·.name == vendorVariable) = true :=
    List.any_eq_true.mpr ⟨v, inside, beq_iff_eq.mpr own⟩
  have some_ := Variable.mem_given_of_mem variableMark_ne_empty inside (standsFor_vendor own)
  rw [ofVariables, present, foldlM_add, Option.toList_none, List.nil_append, ← Variable.given]
  generalize Variable.given variableMark vendorField vars = values at some_ ⊢
  rcases values with _ | ⟨vendor, _ | ⟨other, rest⟩⟩
  · cases some_
  · rfl
  · rfl

theorem ofVariables_marked (vars : List Variable) :
    ofVariables (vars.filter fun v => variableMark.toList.isPrefixOf v.name.toList) =
      ofVariables vars := by
  have entries : Variable.entries variableMark
      (vars.filter fun v => variableMark.toList.isPrefixOf v.name.toList) =
        Variable.entries variableMark vars := by
    rw [Variable.entries, List.filterMap_filter]
    refine congrFun (congrArg List.filterMap (funext fun v => ?_)) vars
    rw [Variable.reduce?]
    split <;> rfl
  have marked {v : Variable} (own : v.name = vendorVariable) :
      variableMark.toList.isPrefixOf v.name.toList = true := by
    rw [own]
    decide
  by_cases named : ∃ v ∈ vars, v.name = vendorVariable
  · have still : ∃ v ∈ vars.filter fun v => variableMark.toList.isPrefixOf v.name.toList,
        v.name = vendorVariable := by
      obtain ⟨v, inside, own⟩ := named
      exact ⟨v, List.mem_filter.mpr ⟨inside, marked own⟩, own⟩
    rw [ofVariables_of_named still, ofVariables_of_named named, Variable.given, Variable.given,
      entries]
  · rw [ofVariables_of_unnamed named, ofVariables_of_unnamed]
    rintro ⟨v, inside, own⟩
    exact named ⟨v, (List.mem_filter.mp inside).1, own⟩

/-- The settings that are read have the last value of each field but the vendor's. -/
theorem get?_settle_entries {name value : String} :
    (settle ∅ (Variable.entries variableMark vars)).get? name = some value ↔
      name ≠ vendorField ∧ ∃ before v after, vars = before ++ v :: after ∧
        v.StandsFor variableMark name ∧ v.value = value ∧
        ∀ w ∈ after, ¬w.StandsFor variableMark name := by
  by_cases own : name = vendorField
  · rw [own, get?_settle_vendor, SettingTable.get?_empty]
    exact iff_of_false nofun fun both => both.1 rfl
  · rw [get?_settle _ _ own, SettingTable.get?_empty, Option.or_none, ← Variable.given,
      Variable.getLast?_given_eq_some variableMark_ne_empty]
    exact (and_iff_right own).symm

/-- Variables name no vendor, or two of them stand for it, or the one that names it does alone. -/
theorem ofVariables_cases (vars : List Variable) :
    let named := ∃ v ∈ vars, v.name = vendorVariable
    let twice := ∃ v w, [v, w].Sublist vars ∧ v.StandsFor variableMark vendorField ∧
      w.StandsFor variableMark vendorField
    (¬named ∧ ofVariables vars = .ok none) ∨
    (named ∧ twice ∧ ofVariables vars = .error (.duplicate vendorField)) ∨
    (named ∧ ¬twice ∧ ∃ vendor, Variable.given variableMark vendorField vars = [vendor] ∧
      ofVariables vars = .ok (some ⟨vendor, settle ∅ (Variable.entries variableMark vars)⟩)) := by
  intro named twice
  have counted : 2 ≤ (Variable.given variableMark vendorField vars).length ↔ twice :=
    Variable.two_le_length_given variableMark_ne_empty
  by_cases present : named
  · obtain ⟨v, inside, own⟩ := present
    have some_ := Variable.mem_given_of_mem variableMark_ne_empty inside (standsFor_vendor own)
    have read := ofVariables_of_named ⟨v, inside, own⟩
    match given : Variable.given variableMark vendorField vars, some_ with
    | [vendor], _ =>
        rw [given] at read counted
        exact .inr (.inr ⟨⟨v, inside, own⟩, mt counted.mpr (by simp), vendor, rfl, read⟩)
    | _ :: _ :: _, _ =>
        rw [given] at read counted
        exact .inr (.inl ⟨⟨v, inside, own⟩, counted.mp (Nat.le_add_left 2 _), read⟩)
  · exact .inl ⟨present, ofVariables_of_unnamed present⟩

end Variables

/-- For any variables: there are no settings of a vendor just if none is called `CDN_VENDOR`. Else
they cannot be read just if two of them stand for the vendor, and that is the only fault there is;
and what is read has the value of `CDN_VENDOR` for the vendor, and under each other name the value
of the last variable that stands for it. Variables without the mark do not matter. -/
theorem ofVariables_reads_all (vars : List Variable) :
    let named := ∃ v ∈ vars, v.name = "CDN_VENDOR"
    let twice := ∃ v w, [v, w].Sublist vars ∧ v.StandsFor "CDN_" "vendor" ∧
      w.StandsFor "CDN_" "vendor"
    (ofVariables vars = .ok none ↔ ¬named) ∧
    ((∃ fault, ofVariables vars = .error fault) ↔ named ∧ twice) ∧
    (∀ fault, ofVariables vars = .error fault → fault = .duplicate "vendor") ∧
    (named → ¬twice → ∃ config, ofVariables vars = .ok (some config) ∧
      (∀ v ∈ vars, v.name = "CDN_VENDOR" → config.vendor = v.value) ∧
      ∀ name value, config.settings.get? name = some value ↔ name ≠ "vendor" ∧
        ∃ before v after, vars = before ++ v :: after ∧ v.StandsFor "CDN_" name ∧
          v.value = value ∧ ∀ w ∈ after, ¬w.StandsFor "CDN_" name) ∧
    ofVariables (vars.filter fun v => "CDN_".toList.isPrefixOf v.name.toList) =
      ofVariables vars := by
  intro named twice
  have unmarked := ofVariables_marked vars
  rcases ofVariables_cases vars with
    ⟨unnamed, read⟩ | ⟨present, both, read⟩ | ⟨present, once, vendor, given, read⟩
  · refine ⟨iff_of_true read unnamed, iff_of_false ?_ fun own => unnamed own.1,
      fun fault failed => ?_, fun present => absurd present unnamed, unmarked⟩
    · rintro ⟨fault, failed⟩
      cases read.symm.trans failed
    · cases read.symm.trans failed
  · refine ⟨iff_of_false ?_ (not_not.mpr present), iff_of_true ⟨_, read⟩ ⟨present, both⟩,
      fun fault failed => ?_, fun _ once => absurd both once, unmarked⟩
    · rw [read]
      nofun
    · exact (Except.error.inj (read.symm.trans failed)).symm
  · refine ⟨iff_of_false ?_ (not_not.mpr present), iff_of_false ?_ fun own => once own.2,
      fun fault failed => ?_, fun _ _ => ⟨_, read, fun v inside own => ?_, fun name value =>
        get?_settle_entries⟩, unmarked⟩
    · rw [read]
      nofun
    · rintro ⟨fault, failed⟩
      cases read.symm.trans failed
    · cases read.symm.trans failed
    · have inside := Variable.mem_given_of_mem variableMark_ne_empty inside (standsFor_vendor own)
      rw [given, List.mem_singleton] at inside
      exact inside.symm

/-- A setting given under a doubled mark, then in lower case. A second variable that stands for the
vendor is one too many, but does not name it alone. -/
theorem ofVariables_reads_all_token :
    let vars : List Variable := [⟨"CDN_VENDOR", "fastly"⟩, ⟨"CDN_CDN_TOKEN", "old"⟩,
      ⟨"PATH", "/usr/bin"⟩, ⟨"CDN_Token", "new"⟩]
    let again : Variable := ⟨"CDN_CDN_vendor", "other"⟩
    (∃ config, ofVariables vars = .ok (some config) ∧ config.vendor = "fastly" ∧
      config.settings.get? "token" = some "new" ∧ config.settings.get? "path" = none) ∧
    ofVariables (again :: vars) = .error (.duplicate "vendor") ∧
    ofVariables [again] = .ok none := by
  intro vars again
  have once : ¬∃ v w, [v, w].Sublist vars ∧ v.StandsFor "CDN_" "vendor" ∧
      w.StandsFor "CDN_" "vendor" := by
    rw [← Variable.two_le_length_given (by decide)]
    decide +kernel
  have twice : ∃ v w, [v, w].Sublist (again :: vars) ∧ v.StandsFor "CDN_" "vendor" ∧
      w.StandsFor "CDN_" "vendor" := by
    rw [← Variable.two_le_length_given (by decide)]
    decide +kernel
  obtain ⟨-, -, -, read, -⟩ := ofVariables_reads_all vars
  obtain ⟨config, own, vendor, settings⟩ := read ⟨_, List.mem_cons_self, rfl⟩ once
  obtain ⟨-, fails, only, -, -⟩ := ofVariables_reads_all (again :: vars)
  obtain ⟨fault, failed⟩ := fails.mpr ⟨⟨_, List.mem_cons_of_mem _ List.mem_cons_self, rfl⟩, twice⟩
  obtain ⟨unnamed, -⟩ := ofVariables_reads_all [again]
  refine ⟨⟨config, own, vendor _ List.mem_cons_self rfl, ?_, ?_⟩, only fault failed ▸ failed,
    unnamed.mpr (by decide +kernel)⟩
  · refine (settings "token" "new").mpr ⟨by decide, vars.take 3, ⟨"CDN_Token", "new"⟩, [], rfl, ?_,
      rfl, nofun⟩
    exact ⟨0, "Token", rfl, by decide, by decide +kernel⟩
  · rw [Option.eq_none_iff_forall_ne_some]
    intro value found
    obtain ⟨-, before, v, after, split, own, -⟩ := (settings "path" value).mp found
    have none_ : Variable.given "CDN_" "path" vars = [] := by decide +kernel
    have inside : v ∈ vars := split ▸ List.mem_append_right _ List.mem_cons_self
    exact (Variable.given_eq_nil_iff (by decide)).mp none_ v inside own

end CachePurge.VendorSettings
