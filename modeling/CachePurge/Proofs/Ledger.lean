import CachePurge.Proofs.Program
import CachePurge.Surroundings

/-!
What the traces of programs tell of the requests that they made and of the failures that they
reported.
-/

namespace CachePurge

def Event.request? : Event → Option Http.Request
  | .request asked _ => some asked
  | .enter _ | .exit _ | .failed _ _ => none

/-- The requests that were given to the client, in their order. -/
def Ledger.requests {ε : Type} (l : Ledger ε) : List Http.Request :=
  l.trace.filterMap Event.request?

theorem Ledger.requests_note {ε : Type} (event : Event) (l : Ledger ε) :
    (Ledger.note event l).2.requests = l.requests ++ event.request?.toList := by
  refine List.filterMap_append.trans (congrArg (l.requests ++ ·) ?_)
  cases event <;> rfl

def Event.isFailure : Event → Bool
  | .failed _ _ => true
  | .enter _ | .exit _ | .request _ _ => false

/-- How many failures were reported. -/
def Ledger.failures {ε : Type} (l : Ledger ε) : Nat := l.trace.countP Event.isFailure

theorem Ledger.failures_note {ε : Type} (event : Event) (l : Ledger ε) :
    (Ledger.note event l).2.failures = l.failures + if event.isFailure then 1 else 0 := by
  refine List.countP_append.trans (congrArg (l.failures + ·) ?_)
  cases event <;> rfl

end CachePurge
