/-!
When the requests of a fan-out run. Each is produced as the one before it starts, and starts as soon
as fewer earlier ones are running than may run at once; one that ends at an instant runs no longer
at that instant.
-/

namespace CachePurge.Fanout

structure Span where
  produced : Nat
  started : Nat
  finished : Nat
  deriving DecidableEq, Repr

/-- The first time, not before a request is produced, at which fewer than `limit` of those run whose
ends are given. -/
def startTime (limit : Nat) (ends : List Nat) (produced : Nat) : Nat :=
  let running := (ends.filter (produced < ·)).mergeSort
  if running.length < limit then produced else running.getD (running.length - limit) produced

/-- The spans of further requests of some durations after earlier ones, of which some still run. -/
def scheduleAfter (limit : Nat) : (ends : List Nat) → (produced : Nat) → List Nat → List Span
  | _, _, [] => []
  | ends, produced, duration :: rest =>
    let started := startTime limit ends produced
    let finished := started + duration
    ⟨produced, started, finished⟩ ::
      scheduleAfter limit (finished :: ends.filter (started < ·)) started rest

/-- The spans of requests of some durations, of which `limit` may run at once, but always one. -/
def schedule (limit : Nat) (durations : List Nat) : List Span :=
  scheduleAfter (max limit 1) [] 0 durations

/-- How many run at the start of each request: itself and the earlier ones that have not ended. -/
def loads (spans : List Span) : List Nat :=
  spans.zipIdx.map fun (span, i) =>
    1 + ((spans.take i).filter fun other =>
      other.started ≤ span.started && span.started < other.finished).length

def maxInFlight (spans : List Span) : Nat := (loads spans).foldl max 0

/-- Things done in given spans, in the order in which they end; of two that end together, the
earlier one first. -/
def byEnd {α : Type} (spans : List Span) (things : List α) : List α :=
  ((spans.zip things).mergeSort fun a b => decide (a.1.finished ≤ b.1.finished)).map (·.2)

end CachePurge.Fanout
