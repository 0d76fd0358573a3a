import CachePurge.Invalidation.Basic
import CachePurge.Json.Record

/-!
Invalidations in JSON, with kinds and states by name.
-/

namespace CachePurge

/-- The name of a kind in JSON. -/
def Kind.name : Kind → String
  | .tag => "tag"
  | .url => "url"
  | .wildcardUrl => "wildcard_url"
  | .everything => "everything"

def State.name : State → String
  | .new => "new"
  | .processing => "processing"
  | .succeeded => "succeeded"
  | .failed => "failed"

def State.all : List State := [.new, .processing, .succeeded, .failed]

def Kind.ofName? (name : String) : Option Kind := Kind.all.find? (·.name == name)
def State.ofName? (name : String) : Option State := State.all.find? (·.name == name)

/-- A name, or an object with nothing under that name alone. -/
def Json.asName? : Json → Option String
  | .string name => some name
  | .object members =>
    match Json.distinct members with
    | [(name, .null)] => some name
    | _ => none
  | _ => none

namespace Invalidation

def fieldNames : List String := ["id", "kind", "expression", "state"]

def ofJson? (j : Json) : Option Invalidation := do
  match ← j.record? fieldNames with
  | [id, kind, expression, state] =>
    return {
      id := ← (← id).asString?.bind Uuid.ofText?
      kind := ← (← kind).asName?.bind Kind.ofName?
      expression := ← (← expression).asString?
      state := ← (← state).asName?.bind State.ofName? }
  | _ => none

def toJson (inv : Invalidation) : Json :=
  .object [("id", .string inv.id.toText), ("kind", .string inv.kind.name),
    ("expression", .string inv.expression), ("state", .string inv.state.name)]

end Invalidation
end CachePurge
