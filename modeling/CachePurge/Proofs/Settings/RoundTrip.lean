import CachePurge.Proofs.Json.Record
import CachePurge.Proofs.Json.Text
import CachePurge.Proofs.Settings.Vendor

/-!
Settings of a vendor written as one object and read back. The vendor shares the object with its
settings, so that one of them must not have its name: in text it would stand there twice, which is
refused, and in an object that holds each name once it would take the place of the vendor.
-/

namespace CachePurge.VendorSettings

open Json (textMembers ofTexts)

/-- An entry of a text by name. -/
def entryOf (text : String × String) : Entry := ⟨text.1, text.1, text.2⟩

theorem mapM_textMembers (texts : List (String × String)) :
    (textMembers texts).mapM (fun (name, value) =>
      (Json.asString? value).map (Entry.mk name name)) = some (texts.map entryOf) := by
  induction texts with
  | nil => rfl
  | cons text texts ih =>
      rw [Json.textMembers_cons, List.mapM_cons, ih]
      rfl

theorem settle_of_named {texts : List (String × String)}
    (others : ∀ text ∈ texts, text.1 ≠ vendorField) (table : SettingTable) :
    settle table (texts.map entryOf) = table.insertEach texts := by
  induction texts generalizing table with
  | nil => rfl
  | cons text texts ih =>
      obtain ⟨own, others⟩ := List.forall_mem_cons.mp others
      rw [List.map_cons, settle_cons, ih others]
      exact congrArg (SettingTable.insertEach · texts) (if_neg own)

theorem valuesOf_entries {table : SettingTable} {name : String} :
    Variable.valuesOf name (table.entries.map entryOf) = [] ↔ table.get? name = none := by
  rw [SettingTable.get?_eq_none_iff, Variable.valuesOf, List.map_eq_nil_iff,
    List.filter_eq_nil_iff, List.forall_mem_map]
  simp [entryOf]

/-- Settings are read back from their text unless one of them has the vendor's own name; such text
is refused. -/
theorem ofText?_toText (s : VendorSettings) :
    ofText? s.toText = if s.settings.get? vendorField = none then some s else none := by
  rw [ofText?, toText, Json.parse_render_ofTexts]
  change ofMembers? (textMembers s.texts) = _
  have given : Variable.valuesOf vendorField (s.texts.map entryOf) =
      s.vendor :: Variable.valuesOf vendorField (s.settings.entries.map entryOf) :=
    Variable.valuesOf_cons_of_eq (e := entryOf (vendorField, s.vendor)) rfl _
  rw [ofMembers?, mapM_textMembers, Option.bind_eq_bind, Option.bind_some, foldlM_add,
    Option.toList_none, List.nil_append, given]
  by_cases absent : s.settings.get? vendorField = none
  · rw [if_pos absent, valuesOf_entries.mpr absent]
    change some (VendorSettings.mk s.vendor (settle ∅ (s.settings.entries.map entryOf))) = _
    rw [settle_of_named (SettingTable.get?_eq_none_iff.mp absent), SettingTable.insertEach_entries]
  · obtain ⟨value, values, two⟩ := List.exists_cons_of_ne_nil (mt valuesOf_entries.mp absent)
    rw [if_neg absent, two]

/-- What an object with each name once has of settings: one of the vendor's own name stands in its
place. -/
def flattened (s : VendorSettings) : VendorSettings :=
  ⟨(s.settings.get? vendorField).getD s.vendor, s.settings.erase vendorField⟩

theorem toJson_eq_ofTexts (s : VendorSettings) : s.toJson = ofTexts s.flattened.texts := by
  have first : (s.settings.entries.find? (·.1 == vendorField)).getD (vendorField, s.vendor) =
      (vendorField, s.flattened.vendor) := by
    rw [flattened, SettingTable.get?]
    cases found : s.settings.entries.find? (·.1 == vendorField) with
    | none => rfl
    | some entry =>
        have own : entry.1 = vendorField := by simpa using List.find?_some found
        exact Prod.ext own rfl
  change Json.object (Json.distinct (textMembers s.texts)) = _
  rw [texts, Json.distinct_textMembers s.settings.names_differ, first]
  rfl

theorem foldlM_textMembers (texts : List (String × String)) (table : SettingTable) :
    (textMembers texts).foldlM (fun table (name, value) =>
      (Json.asString? value).map (SettingTable.insert table name)) table =
        some (table.insertEach texts) := by
  induction texts generalizing table with
  | nil => rfl
  | cons text texts ih =>
      rw [Json.textMembers_cons, List.foldlM_cons]
      exact ih _

theorem ofJson?_ofTexts {s : VendorSettings} (absent : s.settings.get? vendorField = none) :
    ofJson? (ofTexts s.texts) = some s := by
  have others := SettingTable.get?_eq_none_iff.mp absent
  have fresh : ∀ m ∈ textMembers s.settings.entries, m.1 ≠ vendorField :=
    List.forall_mem_map.mpr others
  have vendor : Json.member? (.object (textMembers s.texts)) vendorField =
      some (.string s.vendor) := Json.member?_cons_of_fresh fresh
  have settings : (Json.distinct (textMembers s.texts)).filter (·.1 != vendorField) =
      textMembers s.settings.entries := by
    have alone : s.settings.entries.find? (·.1 == vendorField) = none :=
      List.find?_eq_none.mpr fun entry inside => by simpa using others entry inside
    have kept : s.settings.entries.filter (·.1 != vendorField) = s.settings.entries :=
      List.filter_eq_self.mpr fun entry inside => by simpa using others entry inside
    rw [texts, Json.distinct_textMembers s.settings.names_differ, alone, kept,
      Json.textMembers_cons, List.filter_cons_of_neg (by simp)]
    exact List.filter_eq_self.mpr fun m inside => by simpa using fresh m inside
  rw [ofTexts, ofJson?, vendor, settings]
  change (List.foldlM _ ∅ (textMembers s.settings.entries) >>= fun settings =>
    pure (VendorSettings.mk s.vendor settings)) = some s
  rw [foldlM_textMembers, SettingTable.insertEach_entries]
  rfl

/-- What is read of the object is what it has of the settings. -/
theorem ofJson?_toJson (s : VendorSettings) : ofJson? s.toJson = some s.flattened := by
  rw [toJson_eq_ofTexts]
  exact ofJson?_ofTexts (s.settings.get?_erase vendorField)

theorem flattened_eq_self_iff {s : VendorSettings} :
    s.flattened = s ↔ s.settings.get? vendorField = none := by
  constructor
  · intro same
    rw [← same]
    exact s.settings.get?_erase vendorField
  · intro absent
    rw [flattened, absent, SettingTable.erase_of_none absent]
    rfl

/-- Settings that variables give are read back, for the vendor is never among those. -/
theorem restored_of_variables {vars : List Variable} {s : VendorSettings}
    (given : ofVariables vars = .ok (some s)) :
    ofText? s.toText = some s ∧ ofJson? s.toJson = some s := by
  have absent : s.settings.get? vendorField = none := by
    rcases ofVariables_cases vars with ⟨-, read⟩ | ⟨-, -, read⟩ | ⟨-, -, vendor, -, read⟩
    · cases read.symm.trans given
    · cases read.symm.trans given
    · cases read.symm.trans given
      exact get?_settle_vendor _ ∅
  rw [ofText?_toText, ofJson?_toJson, if_pos absent, flattened_eq_self_iff.mpr absent]
  exact ⟨rfl, rfl⟩

/-- A vendor with some settings, given one after the other. -/
def withEach (vendor : String) (settings : List (String × String)) : VendorSettings :=
  settings.foldl (fun s setting => s.withSetting setting.1 setting.2) (ofVendor vendor)

theorem withEach_eq (vendor : String) (settings : List (String × String)) :
    withEach vendor settings = ⟨vendor, SettingTable.insertEach ∅ settings⟩ := by
  rw [withEach, ofVendor]
  generalize (∅ : SettingTable) = table
  induction settings generalizing table with
  | nil => rfl
  | cons setting settings ih => exact ih (table.insert setting.1 setting.2)

theorem get?_withEach_eq_none_iff {vendor name : String} {settings : List (String × String)} :
    (withEach vendor settings).settings.get? name = none ↔
      ∀ setting ∈ settings, setting.1 ≠ name := by
  rw [withEach_eq, SettingTable.get?_insertEach_eq_none_iff]
  exact and_iff_right rfl

/-- Settings that are given one after the other are read back, from text and from an object, if and
only if none of them has the vendor's own name. If one does, the text is refused, and from an object
its value is read as the vendor. -/
theorem json_restores_iff (vendor : String) (settings : List (String × String)) :
    let s : VendorSettings := withEach vendor settings
    (ofText? s.toText = some s ↔ ∀ setting ∈ settings, setting.1 ≠ "vendor") ∧
    (ofJson? s.toJson = some s ↔ ∀ setting ∈ settings, setting.1 ≠ "vendor") ∧
    ((∃ setting ∈ settings, setting.1 = "vendor") → ofText? s.toText = none ∧
      ∃ value, s.settings.get? "vendor" = some value ∧
        ofJson? s.toJson = some ⟨value, s.settings.erase "vendor"⟩) := by
  intro s
  have absent : s.settings.get? "vendor" = none ↔ ∀ setting ∈ settings, setting.1 ≠ "vendor" :=
    get?_withEach_eq_none_iff
  rw [ofText?_toText, ofJson?_toJson, ← absent, Option.some_inj, flattened_eq_self_iff]
  refine ⟨?_, Iff.rfl, ?_⟩
  · change (if s.settings.get? "vendor" = none then some s else none) = some s ↔ _
    split
    · next none_ => exact iff_of_true rfl none_
    · next some_ => exact iff_of_false nofun some_
  · rintro ⟨setting, inside, own⟩
    have some_ : s.settings.get? "vendor" ≠ none := fun none_ => absent.mp none_ setting inside own
    obtain ⟨value, found⟩ := Option.ne_none_iff_exists'.mp some_
    refine ⟨if_neg some_, value, found, ?_⟩
    rw [flattened, vendorField, found]
    rfl

/-- Quotes and control characters are read back, and of a repeated setting the last value, but not
a setting of the vendor's own name. -/
theorem json_restores_iff_hidden :
    let plain := withEach "fastly" [("token", "old"), ("Token", "\"\n\x01é"), ("token", "new")]
    let hidden := withEach "fastly" [("vendor", "other")]
    ofText? plain.toText = some plain ∧ ofJson? plain.toJson = some plain ∧
      ofText? hidden.toText = none ∧ ofJson? hidden.toJson = some (ofVendor "other") ∧
      ofVendor "other" ≠ hidden := by
  intro plain hidden
  have others : ∀ setting ∈ [("token", "old"), ("Token", "\"\n\x01é"), ("token", "new")],
      setting.1 ≠ "vendor" := by decide
  obtain ⟨text, object, -⟩ := json_restores_iff "fastly"
    [("token", "old"), ("Token", "\"\n\x01é"), ("token", "new")]
  obtain ⟨-, -, lost⟩ := json_restores_iff "fastly" [("vendor", "other")]
  obtain ⟨refused, value, found, read⟩ := lost ⟨_, List.mem_singleton_self _, rfl⟩
  cases Option.some_inj.mp (found : some "other" = some value)
  have erased : (withEach "fastly" [("vendor", "other")]).settings.erase "vendor" = ∅ :=
    SettingTable.ext_entries (by decide +kernel)
  rw [erased] at read
  refine ⟨text.mpr others, object.mpr others, refused, read, fun same => ?_⟩
  exact absurd (congrArg vendor same) (by decide)

end CachePurge.VendorSettings
