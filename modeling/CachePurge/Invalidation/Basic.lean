import CachePurge.Uuid

/-!
Invalidations: what is to be purged, and how far the purge has come. A state only moves forward,
from new over processing to succeeded or failed.
-/

namespace CachePurge

inductive Kind where
  | tag
  | url
  | wildcardUrl
  | everything
  deriving DecidableEq, Repr

/-- The order in which the kinds of a dispatch are handled. -/
def Kind.all : List Kind := [.tag, .url, .wildcardUrl, .everything]

def Kind.label : Kind → String
  | .tag => "tag"
  | .url => "url"
  | .wildcardUrl => "wildcardurl"
  | .everything => "everything"

def Kind.handlerName : Kind → String
  | .tag => "invalidate_tags"
  | .url => "invalidate_urls"
  | .wildcardUrl => "invalidate_wildcard_urls"
  | .everything => "invalidate_everything"

inductive State where
  | new
  | processing
  | succeeded
  | failed
  deriving DecidableEq, Repr

namespace State

def isTerminal : State → Bool
  | .succeeded | .failed => true
  | .new | .processing => false

def rank : State → Nat
  | .new => 0
  | .processing => 1
  | .succeeded | .failed => 2

def canMoveTo (s next : State) : Bool := s.rank < next.rank

/-- The later of two states; the first, if neither is later. -/
def advance (s next : State) : State := if s.canMoveTo next then next else s

def ofSuccess (success : Bool) : State := if success then .succeeded else .failed

end State

structure Invalidation where
  id : Uuid
  kind : Kind
  expression : String
  state : State
  deriving DecidableEq

namespace Invalidation

def ofId (id : Uuid) (kind : Kind) (expression : String) : Invalidation :=
  ⟨id, kind, expression, .new⟩

def advance (inv : Invalidation) (next : State) : Invalidation :=
  { inv with state := inv.state.advance next }

def isTerminal (inv : Invalidation) : Bool := inv.state.isTerminal

def process (inv : Invalidation) : Invalidation := inv.advance .processing
def succeed (inv : Invalidation) : Invalidation := inv.advance .succeeded
def fail (inv : Invalidation) : Invalidation := inv.advance .failed
def settle (success : Bool) (inv : Invalidation) : Invalidation :=
  inv.advance (.ofSuccess success)

end Invalidation
end CachePurge
