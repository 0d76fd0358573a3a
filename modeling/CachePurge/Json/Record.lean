import CachePurge.Json.Basic

/-!
Records in JSON: the fields of a value by name in an object, or by place in an array.
-/

namespace CachePurge.Json

/-- The fields of a record in the order of their names; an array may leave out the last ones. -/
def record? (names : List String) : Json → Option (List (Option Json))
  | .object members => some (names.map (member? (.object members)))
  | .array items =>
    if names.length < items.length then none
    else some (items.map some ++ List.replicate (names.length - items.length) none)
  | _ => none

def asNatural? : Json → Option UInt64
  | .number (.natural n) => if n < UInt64.size then some n.toUInt64 else none
  | _ => none

def asStrings? : Json → Option (List String)
  | .array items => items.mapM asString?
  | _ => none

/-- A field that may be missing but not be something else. -/
def orDefault {α : Type} (read : Json → Option α) (default : α) : Option Json → Option α
  | none => some default
  | some j => read j

def ofStrings (texts : List String) : Json := .array (texts.map .string)

def textMembers (texts : List (String × String)) : List (String × Json) :=
  texts.map fun (name, text) => (name, .string text)

/-- An object of texts by name, one after the other. -/
def ofTexts (texts : List (String × String)) : Json := .object (textMembers texts)

end CachePurge.Json
