/-!
Things that are shared. Whoever has a reference to a thing can read and change it; a clone of a
reference is one more reference to the same thing.
-/

namespace CachePurge

/-- Things, and for each reference the place of the thing to which it refers. -/
structure Shared (α : Type) where
  things : List α
  references : List Nat
  valid : ∀ place ∈ references, place < things.length

namespace Shared
variable {α : Type}

/-- References are known by when they were made. -/
abbrev Reference (s : Shared α) : Type := Fin s.references.length

def empty : Shared α := ⟨[], [], fun _ inside => nomatch inside⟩

def place (s : Shared α) (r : s.Reference) : Nat := s.references[r]

theorem place_lt (s : Shared α) (r : s.Reference) : s.place r < s.things.length :=
  s.valid _ (List.getElem_mem r.isLt)

def get (s : Shared α) (r : s.Reference) : α := s.things.get ⟨s.place r, s.place_lt r⟩

/-- A new thing with a first reference to it. -/
def share (s : Shared α) (thing : α) : Shared α where
  things := s.things ++ [thing]
  references := s.references ++ [s.things.length]
  valid place inside := by
    rw [List.length_append, List.length_singleton]
    cases List.mem_append.mp inside with
    | inl before => exact Nat.lt_succ_of_lt (s.valid place before)
    | inr new => exact Nat.lt_succ_of_le (Nat.le_of_eq (List.mem_singleton.mp new))

def clone (s : Shared α) (r : s.Reference) : Shared α where
  things := s.things
  references := s.references ++ [s.place r]
  valid place inside := by
    cases List.mem_append.mp inside with
    | inl before => exact s.valid place before
    | inr new => exact List.mem_singleton.mp new ▸ s.place_lt r

/-- Changes the thing to which a reference refers. -/
def change (s : Shared α) (r : s.Reference) (f : α → α) : Shared α where
  things := s.things.modify (s.place r) f
  references := s.references
  valid place inside := by
    rw [List.length_modify]
    exact s.valid place inside

end Shared
end CachePurge
