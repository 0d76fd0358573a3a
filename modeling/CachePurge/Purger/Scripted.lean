import CachePurge.Purger.Basic

/-!
A purger that does what it is told, for rehearsing a dispatch. It remembers how it was called.
-/

namespace CachePurge

inductive Action where
  | leave
  | process
  | succeed
  | fail
  | settle (success : Bool)
  deriving DecidableEq, Repr

def Action.apply : Action → Invalidation → Invalidation
  | .leave, inv => inv
  | .process, inv => inv.process
  | .succeed, inv => inv.succeed
  | .fail, inv => inv.fail
  | .settle success, inv => inv.settle success

/-- What a handler does with the invalidations of its batch, one by one and then with the rest, and
the fault that it reports in the end. -/
structure Script where
  actions : List Action
  otherwise : Action
  fault : Option Fault

def Script.play (script : Script) : List Action → List Invalidation → List Invalidation
  | _, [] => []
  | [], inv :: rest => script.otherwise.apply inv :: script.play [] rest
  | action :: actions, inv :: rest => action.apply inv :: script.play actions rest

/-- A call of a handler with the expressions of its batch. -/
structure HandlerCall where
  kind : Kind
  batch : List String
  deriving DecidableEq, Repr

/-- A purger by scripts; a handler without one supports nothing. -/
def Purger.scripted (name : String) (supported : List Kind) (scripts : Kind → Option Script) :
    Purger (List HandlerCall) where
  name := name
  supported := supported
  handle kind batch := do
    modify (· ++ [⟨kind, batch.map (·.expression)⟩])
    match scripts kind with
    | none => return (batch.map (·.state), .panicked (Purger.unsupported name kind))
    | some script =>
      let states := (script.play script.actions batch).map (·.state)
      return (states, match script.fault with
        | some fault => .failed fault
        | none => .done)

end CachePurge
