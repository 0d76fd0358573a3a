import CachePurge.Json.Read
import CachePurge.Json.Record
import CachePurge.Settings.Variable
import CachePurge.Text.Blank

/-!
Settings of a CDN vendor: its name and further settings by name. A setting given twice has its last
value, but the vendor itself may be given only once.
-/

namespace CachePurge

/-- Settings in the order of their names, each name once. -/
structure SettingTable where
  entries : List (String × String)
  sorted : entries.Pairwise fun a b => a.1 < b.1

namespace SettingTable

def empty : SettingTable := ⟨[], .nil⟩

instance : EmptyCollection SettingTable := ⟨empty⟩

def insertEntry (name value : String) : List (String × String) → List (String × String)
  | [] => [(name, value)]
  | (other, kept) :: rest =>
    if name < other then (name, value) :: (other, kept) :: rest
    else if other < name then (other, kept) :: insertEntry name value rest
    else (name, value) :: rest

theorem mem_insertEntry {name value : String} {entries : List (String × String)}
    {e : String × String} (h : e ∈ insertEntry name value entries) :
    e = (name, value) ∨ e ∈ entries := by
  induction entries with
  | nil => simpa [insertEntry] using h
  | cons first rest ih =>
    obtain ⟨other, kept⟩ := first
    simp only [insertEntry] at h
    split at h
    · simpa using h
    · split at h
      · rcases List.mem_cons.1 h with h | h
        · exact .inr (by simp [h])
        · rcases ih h with h | h <;> simp [h]
      · rcases List.mem_cons.1 h with h | h <;> simp [h]

theorem sorted_insertEntry {name value : String} {entries : List (String × String)}
    (h : entries.Pairwise fun a b => a.1 < b.1) :
    (insertEntry name value entries).Pairwise fun a b => a.1 < b.1 := by
  induction entries with
  | nil => simp [insertEntry]
  | cons first rest ih =>
    obtain ⟨other, kept⟩ := first
    obtain ⟨above, tail⟩ := List.pairwise_cons.1 h
    simp only [insertEntry]
    split
    · rename_i lt
      refine List.pairwise_cons.2 ⟨fun e he => ?_, h⟩
      rcases List.mem_cons.1 he with rfl | he
      · exact lt
      · exact String.lt_trans lt (above e he)
    · split
      · rename_i lt
        refine List.pairwise_cons.2 ⟨fun e he => ?_, ih tail⟩
        rcases mem_insertEntry he with rfl | he
        · exact lt
        · exact above e he
      · rename_i not_lt not_gt
        have same : name = other := String.le_antisymm
          (String.not_lt.1 not_gt) (String.not_lt.1 not_lt)
        subst same
        exact List.pairwise_cons.2 ⟨above, tail⟩

def insert (table : SettingTable) (name value : String) : SettingTable :=
  ⟨insertEntry name value table.entries, sorted_insertEntry table.sorted⟩

def get? (table : SettingTable) (name : String) : Option String :=
  (table.entries.find? (·.1 == name)).map (·.2)

end SettingTable

structure VendorSettings where
  vendor : String
  settings : SettingTable

namespace VendorSettings

def ofVendor (vendor : String) : VendorSettings := ⟨vendor, ∅⟩

def withSetting (s : VendorSettings) (name value : String) : VendorSettings :=
  { s with settings := s.settings.insert name value }

/-- A setting without the blanks around it; a blank one is none. -/
def setting? (s : VendorSettings) (name : String) : Option String :=
  match (s.settings.get? name).map Blank.trim with
  | some value => if value.isEmpty then none else some value
  | none => none

def variableMark : String := "CDN_"

/-- The variable that has to be there for any vendor to be configured. -/
def vendorVariable : String := variableMark ++ "VENDOR"

def vendorField : String := "vendor"

/-- Adds a variable to the vendor and the settings given so far. -/
def add (given : Option String × SettingTable) (e : Entry) :
    Except EnvironmentFault (Option String × SettingTable) :=
  if e.field == vendorField then
    if given.1.isSome then .error (.duplicate vendorField) else .ok (some e.value, given.2)
  else .ok (given.1, given.2.insert e.field e.value)

/-- The settings that variables give, if they name a vendor. -/
def ofVariables (vars : List Variable) : Except EnvironmentFault (Option VendorSettings) := do
  if !vars.any (·.name == vendorVariable) then return none
  let (vendor, settings) ← (Variable.entries variableMark vars).foldlM add (none, ∅)
  match vendor with
  | some vendor => return some ⟨vendor, settings⟩
  | none => .error (.missing vendorField)

/-- One object with the vendor and all settings, which have to be texts. -/
def ofJson? (j : Json) : Option VendorSettings := do
  match j with
  | .object members =>
    let vendor ← (j.member? vendorField).bind Json.asString?
    let others := (Json.distinct members).filter (·.1 != vendorField)
    let settings ← others.foldlM (fun table (name, value) =>
      (Json.asString? value).map (SettingTable.insert table name)) (∅ : SettingTable)
    return ⟨vendor, settings⟩
  | _ => none

/-- The vendor and all settings in one object; a setting of the vendor's own name hides it. -/
def toJson (s : VendorSettings) : Json :=
  .object (Json.distinct ((vendorField, .string s.vendor) ::
    s.settings.entries.map fun (name, value) => (name, .string value)))

/-- The vendor, then all settings in the order of their names. -/
def texts (s : VendorSettings) : List (String × String) :=
  (vendorField, s.vendor) :: s.settings.entries

/-- The text of one object, in which a setting of the vendor's own name stands besides it. -/
def toText (s : VendorSettings) : String := Json.render (Json.ofTexts s.texts)

/-- Takes the members of an object one by one, as variables are taken. -/
def ofMembers? (members : List (String × Json)) : Option VendorSettings := do
  let entries ← members.mapM fun (name, value) => (Json.asString? value).map (Entry.mk name name)
  match entries.foldlM add (none, ∅) with
  | .ok (some vendor, settings) => some ⟨vendor, settings⟩
  | _ => none

/-- Reads the text of one object, in which the vendor may stand only once. -/
def ofText? (text : String) : Option VendorSettings :=
  match Json.parse text with
  | .ok (.object members) => ofMembers? members
  | _ => none

end VendorSettings
end CachePurge
