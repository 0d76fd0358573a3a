import CachePurge.Settings.Vendor
import Mathlib.Data.List.Induction

/-!
Tables of settings by what they have under each name. An inserted setting is found under its name
and changes nothing else; settings that are inserted in the order of a table make up that table.
-/

namespace CachePurge.SettingTable

theorem get?_empty (name : String) : (∅ : SettingTable).get? name = none := rfl

theorem find?_insertEntry (name value other : String) (entries : List (String × String)) :
    (insertEntry name value entries).find? (·.1 == other) =
      if name = other then some (name, value) else entries.find? (·.1 == other) := by
  induction entries with
  | nil => by_cases own : name = other <;> simp [insertEntry, own]
  | cons first rest ih =>
      obtain ⟨kept, old⟩ := first
      rw [insertEntry]
      split
      · by_cases own : name = other <;> simp [own]
      · next not_lt =>
          split
          · next lt =>
              have differ : kept ≠ name := String.ne_of_lt lt
              by_cases own : name = other
              · subst own
                simp [differ, ih]
              · by_cases same : kept = other <;> simp [ih, own, same]
          · next not_gt =>
              obtain rfl : name = kept :=
                String.le_antisymm (String.not_lt.mp not_gt) (String.not_lt.mp not_lt)
              by_cases own : name = other <;> simp [own]

theorem get?_insert (table : SettingTable) (name value other : String) :
    (table.insert name value).get? other =
      if name = other then some value else table.get? other := by
  rw [get?, insert, find?_insertEntry]
  split <;> rfl

theorem get?_eq_none_iff {table : SettingTable} {name : String} :
    table.get? name = none ↔ ∀ entry ∈ table.entries, entry.1 ≠ name := by
  simp [get?]

theorem names_differ (table : SettingTable) : table.entries.Pairwise fun a b => a.1 ≠ b.1 :=
  table.sorted.imp fun lt => String.ne_of_lt lt

theorem ext_entries {table table' : SettingTable} (same : table.entries = table'.entries) :
    table = table' := by
  cases table
  cases table'
  cases same
  rfl

/-- The table with some settings inserted, one after the other. -/
def insertEach (table : SettingTable) (settings : List (String × String)) : SettingTable :=
  settings.foldl (fun table setting => table.insert setting.1 setting.2) table

theorem insertEntry_of_above {name : String} (value : String) {entries : List (String × String)}
    (above : ∀ entry ∈ entries, entry.1 < name) :
    insertEntry name value entries = entries ++ [(name, value)] := by
  induction entries with
  | nil => rfl
  | cons first rest ih =>
      obtain ⟨lt, above⟩ := List.forall_mem_cons.mp above
      rw [insertEntry, if_neg (String.lt_asymm lt), if_pos lt, ih above, List.cons_append]

theorem entries_insertEach {entries : List (String × String)}
    (sorted : entries.Pairwise fun a b => a.1 < b.1) :
    (insertEach ∅ entries).entries = entries := by
  induction entries using List.reverseRecOn with
  | nil => rfl
  | append_singleton entries last ih =>
      obtain ⟨sorted, -, above⟩ := List.pairwise_append.mp sorted
      have last_above : ∀ entry ∈ entries, entry.1 < last.1 := fun entry inside =>
        above entry inside last (List.mem_singleton_self last)
      rw [insertEach, List.foldl_append]
      change insertEntry last.1 last.2 (insertEach ∅ entries).entries = entries ++ [last]
      rw [ih sorted, insertEntry_of_above last.2 last_above]

theorem insertEach_entries (table : SettingTable) : insertEach ∅ table.entries = table :=
  ext_entries (entries_insertEach table.sorted)

/-- The table without what it has under a name. -/
def erase (table : SettingTable) (name : String) : SettingTable :=
  ⟨table.entries.filter (·.1 != name), table.sorted.filter _⟩

theorem get?_erase (table : SettingTable) (name : String) : (table.erase name).get? name = none :=
  get?_eq_none_iff.mpr fun _ inside => by simpa using (List.mem_filter.mp inside).2

theorem get?_insertEach_eq_none_iff {table : SettingTable} {settings : List (String × String)}
    {name : String} : (table.insertEach settings).get? name = none ↔
      table.get? name = none ∧ ∀ setting ∈ settings, setting.1 ≠ name := by
  induction settings generalizing table with
  | nil => simp [insertEach]
  | cons setting settings ih =>
      rw [insertEach, List.foldl_cons, ← insertEach, ih, get?_insert, List.forall_mem_cons]
      by_cases own : setting.1 = name <;> simp [own]

theorem erase_of_none {table : SettingTable} {name : String} (absent : table.get? name = none) :
    table.erase name = table := by
  refine ext_entries (List.filter_eq_self.mpr fun entry inside => ?_)
  simpa using get?_eq_none_iff.mp absent entry inside

end CachePurge.SettingTable
