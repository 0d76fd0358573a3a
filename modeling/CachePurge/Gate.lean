/-!
A gate that a fault closes for some time. Times are nanoseconds since the start of 1970. Neither a
time nor a span of time can be told beyond a last one; a closure that would last longer than either
lasts as long as can be told.
-/

namespace CachePurge

structure Closure where
  message : String
  endsAt : Nat
  deriving DecidableEq, Repr

/-- The last closure, whether it is over or not. -/
structure Gate where
  closure : Option Closure
  deriving DecidableEq, Repr

namespace Gate

def clear : Gate := ⟨none⟩

/-- The end of the year 262142. -/
def lastInstant : Nat := 8210266876799999999999

def nanosOfMillis (ms : Nat) : Nat := ms * 1000000
def nanosOfSeconds (s : Nat) : Nat := s * 1000000000

/-- The longest span between two times, `2^63 - 1` milliseconds. -/
def longestSpan : Nat := nanosOfMillis (1 <<< 63 - 1)

/-- A duration as a span between two times, if it is not too long. -/
def span? (ttl : Nat) : Option Nat := if ttl ≤ longestSpan then some ttl else none

/-- The time some span after another, if it is not too late. -/
def after? (now span : Nat) : Option Nat :=
  if now + span ≤ lastInstant then some (now + span) else none

def close (now : Nat) (message : String) (ttl : Nat) : Gate :=
  ⟨some ⟨message, (after? now ((span? ttl).getD longestSpan)).getD lastInstant⟩⟩

/-- The closure that holds at a time. -/
def current (gate : Gate) (now : Nat) : Option Closure := gate.closure.filter (now < ·.endsAt)

def health (gate : Gate) (now : Nat) : Option String := (gate.current now).map (·.message)

/-- The message of the closure that holds, empty if the gate is open. -/
def message (gate : Gate) (now : Nat) : String := (gate.health now).getD ""

def isClosed (gate : Gate) (now : Nat) : Bool := (gate.current now).isSome

def expiry (gate : Gate) (now : Nat) : Option Nat := (gate.current now).map (·.endsAt)

end Gate
end CachePurge
