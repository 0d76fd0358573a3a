/-!
Results of a fan-out: the outcome of each request under the key it was made for, in the order in
which they were collected.
-/

namespace CachePurge.Fanout

structure Results (κ : Type) where
  outcomes : List (κ × Bool)
  deriving Repr

namespace Results

variable {κ : Type}

def empty : Results κ := ⟨[]⟩

def record (r : Results κ) (key : κ) (success : Bool) : Results κ :=
  ⟨r.outcomes ++ [(key, success)]⟩

/-- The outcomes of a key, if it has any. -/
def get? [BEq κ] (r : Results κ) (key : κ) : Option (List Bool) :=
  match (r.outcomes.filter (·.1 == key)).map (·.2) with
  | [] => none
  | outcomes => some outcomes

/-- A key has succeeded if it has outcomes and none of them is a failure. -/
def succeeded [BEq κ] (r : Results κ) (key : κ) : Bool := (r.get? key).any (·.all id)

def totalRequests (r : Results κ) : Nat := r.outcomes.length

/-- The keys that have outcomes, each once. -/
def keys [BEq κ] (r : Results κ) : List κ := (r.outcomes.map (·.1)).eraseDups

def size [BEq κ] (r : Results κ) : Nat := r.keys.length

def isEmpty (r : Results κ) : Bool := r.outcomes.isEmpty

end Results
end CachePurge.Fanout
