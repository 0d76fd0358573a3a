import CachePurge.Fault
import CachePurge.Invalidation.Basic

/-!
Purgers: one handler for each kind of invalidation, and the dispatch of a mixed list to them. Kinds
that a purger does not support are refused before anything is done.
-/

namespace CachePurge

/-- Something that executes invalidations. A handler gives the states in which it leaves those of
its batch, in their order. -/
structure Purger (σ : Type) where
  name : String
  supported : List Kind
  handle : Kind → List Invalidation → StateM σ (List State × Ending)

/-- What a purger says of a kind that it has no handler for. -/
def Purger.unsupported (name : String) (kind : Kind) : Panic :=
  ⟨"purger '" ++ name ++ "' does not support " ++ kind.label ++
    " invalidations; callers must only submit supported kinds"⟩

/-- Moves those invalidations on that count, each to the next of some states. -/
def Invalidation.advanceEach (counts : Invalidation → Bool) :
    List Invalidation → List State → List Invalidation
  | [], _ => []
  | invs, [] => invs
  | inv :: rest, next :: states =>
    if counts inv then inv.advance next :: advanceEach counts rest states
    else inv :: advanceEach counts rest (next :: states)

namespace Purger

variable {σ : Type}

/-- Calls one handler with all invalidations, whatever their kinds. -/
def call (p : Purger σ) (kind : Kind) (invs : List Invalidation) :
    StateM σ (List Invalidation × Ending) := do
  let (states, ending) ← p.handle kind invs
  return (Invalidation.advanceEach (fun _ => true) invs states, ending)

/-- Calls the handlers of some kinds in order, each with the invalidations of its kind if there are
any. The first fault is kept while the others go on; what is unsettled at the end has failed. -/
def dispatchKinds (p : Purger σ) : List Kind → (first : Option Fault) → List Invalidation →
    StateM σ (List Invalidation × Ending)
  | [], first, invs =>
    return (invs.map Invalidation.fail, match first with
      | some fault => .failed fault
      | none => .done)
  | kind :: rest, first, invs => do
    let batch := invs.filter (·.kind = kind)
    if batch.isEmpty then dispatchKinds p rest first invs
    else
      let (states, ending) ← p.handle kind batch
      let invs := Invalidation.advanceEach (·.kind = kind) invs states
      match ending with
      | .done => dispatchKinds p rest first invs
      | .failed fault => dispatchKinds p rest (first <|> some fault) invs
      | .panicked panic => return (invs, .panicked panic)

def dispatch (p : Purger σ) (invs : List Invalidation) :
    StateM σ (List Invalidation × Ending) :=
  match invs.find? fun inv => !p.supported.contains inv.kind with
  | some inv => return (invs, .panicked (unsupported p.name inv.kind))
  | none => p.dispatchKinds Kind.all none invs

end Purger
end CachePurge
