import CachePurge.Proofs.Json.Record
import CachePurge.Proofs.Program
import CachePurge.Proofs.Settings.Variable
import CachePurge.Proofs.Text.Joined
import CachePurge.Settings.Fleet
import Mathlib.Tactic.MkIffOfInductiveProp

/-!
Settings of a fleet as variables give them. Each field is read from the values that are given for it
and from nothing else: there may be one of them at most, and it has to be read. So neither the order
of the variables matters nor any that stands for no field, and what is read is in its normal form.
From their JSON settings are read back as they are.
-/

namespace CachePurge.FleetSettings

namespace Draft

/-- Two drafts field by field, each under its name and with how its values are read. -/
@[mk_iff]
structure EachField
    (P : {α : Type} → String → (String → Option α) → Option α → Option α → Prop)
    (d d' : Draft) : Prop where
  edgeAddresses : P "edge_addresses" (some ∘ splitAddresses) d.edgeAddresses d'.edgeAddresses
  siteIdentifier : P "site_identifier" some d.siteIdentifier d'.siteIdentifier
  tagGroupSize : P "tag_group_size" (fun value => (readNumber value).toOption) d.tagGroupSize
    d'.tagGroupSize
  concurrency : P "concurrency" (fun value => (readNumber value).toOption) d.concurrency
    d'.concurrency
  connectTimeout : P "connect_timeout_ms" (fun value => (readNumber value).toOption)
    d.connectTimeout d'.connectTimeout
  requestTimeout : P "request_timeout_ms" (fun value => (readNumber value).toOption)
    d.requestTimeout d'.requestTimeout

section EachField
variable {P Q : {α : Type} → String → (String → Option α) → Option α → Option α → Prop}
  {d d' : Draft}

theorem EachField.imp (own : EachField P d d')
    (each : ∀ {α : Type} name (read : String → Option α) old new,
      P name read old new → Q name read old new) : EachField Q d d' where
  edgeAddresses := each _ _ _ _ own.edgeAddresses
  siteIdentifier := each _ _ _ _ own.siteIdentifier
  tagGroupSize := each _ _ _ _ own.tagGroupSize
  concurrency := each _ _ _ _ own.concurrency
  connectTimeout := each _ _ _ _ own.connectTimeout
  requestTimeout := each _ _ _ _ own.requestTimeout

theorem eachField_congr (each : ∀ {α : Type} name (read : String → Option α) old new,
    P name read old new ↔ Q name read old new) : EachField P d d' ↔ EachField Q d d' :=
  ⟨fun own => own.imp fun _ _ _ _ => (each _ _ _ _).mp,
    fun own => own.imp fun _ _ _ _ => (each _ _ _ _).mpr⟩

/-- A draft between two others can be made up field by field. -/
theorem exists_eachField : (∃ mid, EachField P d mid ∧ EachField Q mid d') ↔
    EachField (fun name read old new => ∃ mid, P name read old mid ∧ Q name read mid new) d d' := by
  constructor
  · rintro ⟨mid, first, second⟩
    exact ⟨⟨_, first.1, second.1⟩, ⟨_, first.2, second.2⟩, ⟨_, first.3, second.3⟩,
      ⟨_, first.4, second.4⟩, ⟨_, first.5, second.5⟩, ⟨_, first.6, second.6⟩⟩
  · rintro ⟨⟨addresses, h₁, h₁'⟩, ⟨site, h₂, h₂'⟩, ⟨size, h₃, h₃'⟩, ⟨concurrency, h₄, h₄'⟩,
      ⟨connect, h₅, h₅'⟩, ⟨request, h₆, h₆'⟩⟩
    exact ⟨⟨addresses, site, size, concurrency, connect, request⟩, ⟨h₁, h₂, h₃, h₄, h₅, h₆⟩,
      ⟨h₁', h₂', h₃', h₄', h₅', h₆'⟩⟩

theorem eachField_eq : EachField (fun _ _ old new => old = new) d d' ↔ d = d' := by
  obtain ⟨⟩ := d
  obtain ⟨⟩ := d'
  constructor
  · rintro ⟨rfl, rfl, rfl, rfl, rfl, rfl⟩
    rfl
  · rintro ⟨⟩
    exact ⟨rfl, rfl, rfl, rfl, rfl, rfl⟩

end EachField

/-- An entry of a field's name gives the field what its value is read as, if it has nothing yet, and
every other entry leaves the field as it is. -/
def Takes (e : Entry) {α : Type} (name : String) (read : String → Option α)
    (old new : Option α) : Prop :=
  if e.field = name then old = none ∧ ∃ a, read e.value = some a ∧ new = some a else old = new

theorem fresh_eq_ok {α : Type} {old new : Option α} {e : Entry}
    {read : Except EnvironmentFault α} :
    fresh old e read = .ok new ↔ old = none ∧ ∃ a, read = .ok a ∧ new = some a := by
  cases old <;> cases read <;> simp [fresh, Except.map, eq_comm]

theorem number_eq_ok {e : Entry} {n : UInt64} :
    e.number = .ok n ↔ (readNumber e.value).toOption = some n := by
  rw [Entry.number]
  cases readNumber e.value <;> simp [Except.toOption]

theorem add_eq_ok {d d' : Draft} {e : Entry} :
    d.add e = .ok d' ↔ EachField (Takes e) d d' := by
  obtain ⟨⟩ := d
  obtain ⟨⟩ := d'
  rw [add, eachField_iff]
  split
  case h_7 h₁ h₂ h₃ h₄ h₅ h₆ =>
    simp only [Takes, if_neg h₁, if_neg h₂, if_neg h₃, if_neg h₄, if_neg h₅, if_neg h₆,
      ← Draft.mk.injEq]
    exact ⟨Except.ok.inj, congrArg Except.ok⟩
  all_goals
    next named =>
      simp only [bind_pure_comp, exceptMap_ok, fresh_eq_ok, number_eq_ok, Draft.mk.injEq, Takes,
        named, Function.comp_apply, String.reduceEq, if_true, if_false]
      grind

/-- Values give a field something if there is only one of them, it can be read, and the field has
nothing yet; and without any of them the field stays as it is. -/
inductive Gives {α : Type} (read : String → Option α) : List String → Option α → Option α → Prop
  | nothing (old : Option α) : Gives read [] old old
  | single {value : String} {a : α} : read value = some a → Gives read [value] none (some a)

section Gives
variable {α : Type} {read : String → Option α} {old new : Option α}

theorem gives_nil_iff : Gives read [] old new ↔ old = new := by
  constructor
  · rintro ⟨⟩
    rfl
  · rintro rfl
    exact .nothing old

theorem Gives.perm {values values' : List String} (perm : values.Perm values')
    (own : Gives read values old new) : Gives read values' old new := by
  cases own with
  | nothing => exact perm.nil_eq ▸ .nothing old
  | single isRead => exact perm.singleton_eq ▸ .single isRead

/-- Giving the values of entries is taking the first of these and giving what the others have. -/
theorem gives_cons_iff (e : Entry) (entries : List Entry) (name : String) :
    (∃ mid, Takes e name read old mid ∧ Gives read (Variable.valuesOf name entries) mid new) ↔
      Gives read (Variable.valuesOf name (e :: entries)) old new := by
  by_cases own : e.field = name
  · rw [Variable.valuesOf_cons_of_eq own]
    simp only [Takes, if_pos own]
    constructor
    · rintro ⟨mid, ⟨rfl, a, isRead, rfl⟩, later⟩
      generalize Variable.valuesOf name entries = values at later
      cases later
      exact .single isRead
    · intro all
      generalize Variable.valuesOf name entries = values at all ⊢
      cases all with
      | single isRead => exact ⟨_, ⟨rfl, _, isRead, rfl⟩, .nothing _⟩
  · rw [Variable.valuesOf_cons_of_ne own]
    simp only [Takes, if_neg own]
    exact exists_eq_left'

end Gives

/-- Entries can be added to a draft just if every field can be given what they have for it. -/
theorem foldlM_add_eq_ok {entries : List Entry} {d d' : Draft} :
    entries.foldlM Draft.add d = .ok d' ↔
      EachField (fun name read old new => Gives read (Variable.valuesOf name entries) old new)
        d d' := by
  induction entries generalizing d with
  | nil =>
      have equal : (pure d : Except EnvironmentFault Draft) = .ok d' ↔ d = d' :=
        ⟨Except.ok.inj, congrArg Except.ok⟩
      rw [List.foldlM_nil, equal, ← eachField_eq]
      exact eachField_congr fun _ _ _ _ => gives_nil_iff.symm
  | cons e entries ih =>
      rw [List.foldlM_cons, exceptBind_ok]
      simp only [add_eq_ok, ih, exists_eachField]
      exact eachField_congr fun name _ _ _ => gives_cons_iff e entries name

theorem add_of_not_mem {e : Entry} (alien : e.field ∉ fieldNames) (d : Draft) :
    d.add e = .ok d := by
  rw [add]
  split
  case h_7 => rfl
  all_goals
    next named => exact absurd (named ▸ by decide) alien

end Draft

/-- A value lists addresses: they are its items between commas, in their order, each without the
blanks at its ends, and without those of which nothing is left then. -/
def Lists (value : String) (addresses : List String) : Prop :=
  ∃ items : List (String × String), items ≠ [] ∧ value = ",".intercalate (items.map (·.1)) ∧
    (∀ item ∈ items, ',' ∉ item.1.toList ∧ Blank.Trims item.1 item.2) ∧
    addresses = (items.map (·.2)).filter (· ≠ "")

theorem lists_splitAddresses (value : String) :
    Lists value (((Draft.splitAddresses value).map Blank.trim).filter (!·.isEmpty)) := by
  refine ⟨(Draft.splitAddresses value).map fun item => (item, Blank.trim item), ?_, ?_, ?_, ?_⟩
  · rw [Draft.splitAddresses, List.map_map]
    exact mt List.map_eq_nil_iff.mp (List.splitOn_ne_nil _ _)
  · apply String.toList_inj.mp
    have texts : (String.toList ∘ String.ofList) = id := funext fun _ => String.toList_ofList
    rw [String.toList_intercalate, List.map_map, List.map_map, Draft.splitAddresses, List.map_map]
    change _ = List.intercalate [',']
      ((value.toList.splitOn ',').map (String.toList ∘ String.ofList))
    rw [texts, List.map_id, List.intercalate_splitOn]
  · intro item inside
    obtain ⟨text, among, rfl⟩ := List.mem_map.mp inside
    rw [Draft.splitAddresses, List.mem_map] at among
    obtain ⟨label, among, rfl⟩ := among
    refine ⟨?_, Blank.trims_trim _⟩
    rw [String.toList_ofList]
    exact not_mem_of_mem_splitOn among
  · rw [List.map_map]
    refine List.filter_congr fun item _ => ?_
    by_cases none_ : item = ""
    · subst none_
      rfl
    · rw [decide_eq_true none_, Bool.not_eq_true', Bool.eq_false_iff]
      exact mt String.isEmpty_iff.mp none_

theorem ofJson?_toJson (s : FleetSettings) : ofJson? s.toJson = some s := by
  rw [ofJson?, toJson, Json.record?, fieldNames]
  simp [Json.member?, Json.orDefault, Json.asString?]

section Variables
variable {vars vars' : List Variable} {c : FleetSettings}

theorem variableMark_ne_empty : variableMark ≠ "" := by decide

theorem ofVariables_eq_ok : ofVariables vars = .ok c ↔
    ∃ d, Draft.EachField (fun name read old new =>
        Draft.Gives read (Variable.given variableMark name vars) old new) Draft.empty d ∧
      ∃ s, d.finish = .ok s ∧ s.normalize = c := by
  rw [ofVariables, exceptBind_ok]
  refine exists_congr fun d => and_congr Draft.foldlM_add_eq_ok ?_
  rw [exceptBind_ok]
  exact exists_congr fun s => and_congr_right fun _ => ⟨Except.ok.inj, congrArg Except.ok⟩

theorem ofVariables_perm (perm : vars.Perm vars') (own : ofVariables vars = .ok c) :
    ofVariables vars' = .ok c := by
  obtain ⟨d, given, rest⟩ := ofVariables_eq_ok.mp own
  exact ofVariables_eq_ok.mpr
    ⟨d, given.imp fun _ _ _ _ => Draft.Gives.perm (Variable.given_perm perm), rest⟩

theorem ofVariables_insert {v : Variable}
    (other : ∀ name ∈ fieldNames, ¬v.StandsFor variableMark name) (before after : List Variable) :
    ofVariables (before ++ v :: after) = ofVariables (before ++ after) := by
  rw [ofVariables, ofVariables, Variable.entries, Variable.entries, List.filterMap_append,
    List.filterMap_append]
  cases reduced : Variable.reduce? variableMark v with
  | none => rw [List.filterMap_cons_none reduced]
  | some e =>
      have alien : e.field ∉ fieldNames := fun among => other e.field among
        ((Variable.standsFor_iff variableMark_ne_empty).mpr ⟨e, reduced, rfl⟩)
      have skips (d : Draft) (entries : List Entry) :
          (e :: entries).foldlM Draft.add d = entries.foldlM Draft.add d := by
        rw [List.foldlM_cons, Draft.add_of_not_mem alien]
        rfl
      rw [List.filterMap_cons_some reduced, List.foldlM_append, List.foldlM_append]
      simp only [skips]

theorem toNat_max (a b : UInt64) : (max a b).toNat = max a.toNat b.toNat := by
  change (if a ≤ b then b else a).toNat = _
  split
  · next above => exact (Nat.max_eq_right (UInt64.le_iff_toNat_le.mp above)).symm
  · next below =>
      have below := UInt64.lt_iff_toNat_lt.mp (UInt64.not_le.mp below)
      exact (Nat.max_eq_left (Nat.le_of_lt below)).symm

theorem one_le_max (n : UInt64) : 1 ≤ max n 1 := by
  rw [UInt64.le_iff_toNat_le, toNat_max]
  exact Nat.le_max_right _ _

/-- What is read is in its normal form, and the addresses are those that were given. -/
theorem normal_of_eq_ok (own : ofVariables vars = .ok c) :
    1 ≤ c.tagGroupSize ∧ 1 ≤ c.concurrency ∧
      ((Variable.given variableMark "edge_addresses" vars = [] ∧ c.edgeAddresses = []) ∨
        ∃ value, Variable.given variableMark "edge_addresses" vars = [value] ∧
          Lists value c.edgeAddresses) := by
  obtain ⟨d, given, s, finished, rfl⟩ := ofVariables_eq_ok.mp own
  refine ⟨one_le_max _, one_le_max _, ?_⟩
  have addresses : s.edgeAddresses = d.edgeAddresses.getD [] := by
    rw [Draft.finish] at finished
    split at finished
    · cases finished
    · rw [← Except.ok.inj finished]
  have own := given.edgeAddresses
  rw [normalize, addresses]
  generalize Variable.given variableMark "edge_addresses" vars = values at own ⊢
  generalize d.edgeAddresses = read at own ⊢
  cases own with
  | nothing => exact .inl ⟨rfl, rfl⟩
  | single isRead =>
    cases isRead
    exact .inr ⟨_, rfl, lists_splitAddresses _⟩

end Variables

/-- For any variables: what is read from them does not depend on their order, and one more variable
that stands for none of the fields changes nothing, wherever it is put. What is read has at least
one tag in a request and one request at once, and the addresses that the variable for them lists,
or none without it. -/
theorem ofVariables_unordered (vars : List Variable) :
    (∀ vars' c, vars.Perm vars' → (ofVariables vars = .ok c ↔ ofVariables vars' = .ok c)) ∧
    (∀ before v after, vars = before ++ v :: after →
      (∀ name ∈ fieldNames, ¬v.StandsFor "PURGE_" name) →
      ofVariables vars = ofVariables (before ++ after)) ∧
    ∀ c, ofVariables vars = .ok c →
      1 ≤ c.tagGroupSize ∧ 1 ≤ c.concurrency ∧
      (∀ v ∈ vars, v.StandsFor "PURGE_" "edge_addresses" → Lists v.value c.edgeAddresses) ∧
      ((∀ v ∈ vars, ¬v.StandsFor "PURGE_" "edge_addresses") → c.edgeAddresses = []) := by
  refine ⟨fun vars' c perm => ⟨ofVariables_perm perm, ofVariables_perm perm.symm⟩, ?_, ?_⟩
  · rintro before v after rfl other
    exact ofVariables_insert other before after
  · intro c own
    obtain ⟨size, concurrency, addresses⟩ := normal_of_eq_ok own
    refine ⟨size, concurrency, fun v inside stands => ?_, fun absent => ?_⟩
    · have value := Variable.mem_given_of_mem variableMark_ne_empty inside stands
      rcases addresses with ⟨none_, -⟩ | ⟨only, given, lists⟩
      · exact absurd (none_ ▸ value) List.not_mem_nil
      · rw [given, List.mem_singleton] at value
        exact value ▸ lists
    · have none_ := (Variable.given_eq_nil_iff variableMark_ne_empty).mpr absent
      rcases addresses with ⟨-, empty⟩ | ⟨only, given, -⟩
      · exact empty
      · exact absurd (given.symm.trans none_) (List.cons_ne_nil _ _)

/-- Blanks and an empty item among the addresses, a zero under a doubled mark, and a variable that
is not marked. -/
theorem ofVariables_unordered_zero :
    let addresses : Variable := ⟨"PURGE_EDGE_ADDRESSES", "10.0.0.1, ,10.0.0.2:8080 "⟩
    let site : Variable := ⟨"PURGE_Site_Identifier", "site-a"⟩
    let path : Variable := ⟨"PATH", "/usr/bin"⟩
    let limit : Variable := ⟨"PURGE_PURGE_concurrency", "0"⟩
    ∃ c, ofVariables [addresses, site, path, limit] = .ok c ∧
      ofVariables [limit, path, site, addresses] = .ok c ∧
      ofVariables [addresses, site, limit] = .ok c ∧ 1 ≤ c.concurrency ∧
      Lists "10.0.0.1, ,10.0.0.2:8080 " c.edgeAddresses ∧
      c.edgeAddresses = ["10.0.0.1", "10.0.0.2:8080"] := by
  intro addresses site path limit
  obtain ⟨perm, other, normal⟩ := ofVariables_unordered [addresses, site, path, limit]
  have read : ofVariables [addresses, site, path, limit] =
      .ok ⟨["10.0.0.1", "10.0.0.2:8080"], "site-a", 15, 1, 1500, 3000⟩ := by decide +kernel
  have unmarked : ∀ name ∈ fieldNames, ¬path.StandsFor "PURGE_" name := by
    intro name among
    have none_ : ∀ name ∈ fieldNames, Variable.given "PURGE_" name [path] = [] := by
      decide +kernel
    exact (Variable.given_eq_nil_iff (by decide)).mp (none_ name among) path
      List.mem_cons_self
  have stands : addresses.StandsFor "PURGE_" "edge_addresses" :=
    ⟨0, "EDGE_ADDRESSES", rfl, by decide, by decide +kernel⟩
  obtain ⟨-, concurrency, lists, -⟩ := normal _ read
  exact ⟨_, read, (perm [limit, path, site, addresses] _ (List.reverse_perm _).symm).mp read,
    (other [addresses, site] path [limit] rfl unmarked).symm.trans read, concurrency,
    lists addresses List.mem_cons_self stands, rfl⟩

end CachePurge.FleetSettings
