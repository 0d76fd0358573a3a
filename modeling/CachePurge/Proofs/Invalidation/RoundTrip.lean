import CachePurge.Invalidation.Json
import CachePurge.Proofs.Json.Text
import CachePurge.Proofs.Uuid

/-!
Invalidations through JSON. The text that is written is read as the same invalidation, whatever its
expression and its state are, and so is the same object with another spelling of the identifier.
-/

namespace CachePurge

@[simp] theorem Kind.ofName?_name (kind : Kind) : Kind.ofName? kind.name = some kind := by
  cases kind with
  | tag | url | wildcardUrl | everything => rfl

@[simp] theorem State.ofName?_name (state : State) : State.ofName? state.name = some state := by
  cases state with
  | new | processing | succeeded | failed => rfl

namespace Invalidation

/-- The object that is written for an invalidation, with a text in the place of its identifier. -/
def toJsonAs (id : String) (inv : Invalidation) : Json :=
  .ofTexts [("id", id), ("kind", inv.kind.name), ("expression", inv.expression),
    ("state", inv.state.name)]

theorem toJson_eq (inv : Invalidation) : inv.toJson = inv.toJsonAs inv.id.toText := rfl

theorem parse_render_toJsonAs (id : String) (inv : Invalidation) :
    Json.parse (inv.toJsonAs id).render = .ok (inv.toJsonAs id) :=
  Json.parse_render_ofTexts _

theorem ofJson?_toJsonAs (id : String) (inv : Invalidation) :
    ofJson? (inv.toJsonAs id) = (Uuid.ofText? id).map fun id => { inv with id } := by
  have fields : (inv.toJsonAs id).record? fieldNames = some [some (.string id),
      some (.string inv.kind.name), some (.string inv.expression),
      some (.string inv.state.name)] := by
    rfl
  rw [ofJson?, fields]
  simp only [Option.bind_eq_bind, Option.bind_some, Json.asString?, Json.asName?,
    Kind.ofName?_name, State.ofName?_name]
  cases Uuid.ofText? id with
  | none => rfl
  | some id => rfl

theorem ofJson?_toJsonAs_eq_some_iff {id : String} {inv : Invalidation} :
    ofJson? (inv.toJsonAs id) = some inv ↔ Uuid.Spells inv.id id.toList := by
  rw [ofJson?_toJsonAs, ← Uuid.ofText?_eq_some_iff, Option.map_eq_some_iff]
  constructor
  · rintro ⟨own, read, same⟩
    rwa [← congrArg Invalidation.id same]
  · intro read
    exact ⟨inv.id, read, rfl⟩

/-- Every invalidation is read back from the text that it is written as. Its identifier is written
in lower-case digits with hyphens; any other text in that place gives the same invalidation exactly
if it spells the identifier too. -/
theorem json_roundTrip (inv : Invalidation) :
    Json.parse inv.toJson.render = .ok inv.toJson ∧ ofJson? inv.toJson = some inv ∧
      (inv.toJson = inv.toJsonAs inv.id.toText ∧
        ∃ digits : List Char, Uuid.IsGrouped [8, 4, 4, 4, 12] digits inv.id.toText.toList ∧
          (∀ c ∈ digits, c ∈ Hex.lowerDigits) ∧ Hex.toNat? digits = some inv.id.toNat) ∧
      ∀ id : String, Json.parse (inv.toJsonAs id).render = .ok (inv.toJsonAs id) ∧
        (ofJson? (inv.toJsonAs id) = some inv ↔ Uuid.Spells inv.id id.toList) := by
  have spelled : Uuid.Spells inv.id inv.id.toText.toList :=
    Uuid.ofText?_eq_some_iff.mp (Uuid.ofText?_toText inv.id)
  have written : ∃ digits : List Char,
      Uuid.IsGrouped [8, 4, 4, 4, 12] digits inv.id.toText.toList ∧
        (∀ c ∈ digits, c ∈ Hex.lowerDigits) ∧ Hex.toNat? digits = some inv.id.toNat :=
    ⟨Hex.ofNat 32 inv.id.toNat, Uuid.isGrouped_toText inv.id, fun c => Hex.mem_ofNat,
      (Uuid.isDigits_ofNat inv.id).toNat?⟩
  rw [toJson_eq]
  exact ⟨parse_render_toJsonAs _ inv, ofJson?_toJsonAs_eq_some_iff.mpr spelled, ⟨rfl, written⟩,
    fun id => ⟨parse_render_toJsonAs id inv, ofJson?_toJsonAs_eq_some_iff⟩⟩

end Invalidation
end CachePurge
