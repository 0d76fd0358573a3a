import CachePurge.Surroundings

/-!
What an observer is told of a purger: that a handler is entered and left, under the name that the
purger has for it, and each failure that is reported. Of requests as such nothing is told.
-/

namespace CachePurge

inductive Notice where
  | enter (scope : String)
  | exit (scope : String)
  | failed (key : String) (fault : Fault)

/-- What is told of an event by a purger with these names for its handlers. -/
def Event.notice? (scope? : Kind → Option String) : Event → Option Notice
  | .enter handler => (scope? handler).map .enter
  | .exit handler => (scope? handler).map .exit
  | .request _ _ => none
  | .failed key fault => some (.failed key fault)

/-- All that an observer was told, in its order. -/
def Ledger.notices {ε : Type} (scope? : Kind → Option String) (l : Ledger ε) : List Notice :=
  l.trace.filterMap (Event.notice? scope?)

end CachePurge
