import CachePurge.Fanout.Results
import CachePurge.Fanout.Schedule
import CachePurge.Fault
import CachePurge.Tally

/-!
Running a fan-out: many requests, of which a bounded number is under way at once. A request that
fails or panics counts as a failure of its key and disturbs no other one.
-/

namespace CachePurge.Fanout

/-- How a request ends. The text of a panic may be lost. -/
inductive Outcome where
  | answered
  | failed (fault : Fault)
  | panicked (text : Option String)

namespace Outcome

def fault? : Outcome → Option Fault
  | .answered => none
  | .failed fault => some fault
  | .panicked text => some (.panicked (text.getD "unknown panic"))

def isSuccess (o : Outcome) : Bool := o.fault?.isNone

end Outcome

/-- A request under its key, with the milliseconds it takes and how it ends. -/
structure Attempt (κ : Type) where
  key : κ
  duration : Nat
  outcome : Outcome

variable {κ : Type}

def Attempt.latency (a : Attempt κ) : Latency := a.duration.toFloat.toBits

def spans (concurrency : Nat) (attempts : List (Attempt κ)) : List Span :=
  schedule concurrency (attempts.map (·.duration))

/-- No more requests than this can be allowed at once. -/
def maxConcurrency : Nat := 1 <<< 61 - 1

def tooManyPermits : Panic :=
  ⟨"a semaphore may not have more than MAX_PERMITS permits (" ++ Nat.repr maxConcurrency ++ ")"⟩

/-- Makes all requests in order and gives them in the order in which they end. -/
def run {m : Type → Type} [Monad m] (concurrency : Nat) (requests : List (m (Attempt κ))) :
    m (Except Panic (List (Attempt κ))) :=
  if maxConcurrency < concurrency then pure (.error tooManyPermits)
  else do
    let attempts ← requests.mapM id
    return .ok (byEnd (spans concurrency attempts) attempts)

/-- The results of requests in the order in which they ended. -/
def results (ended : List (Attempt κ)) : Results κ :=
  ended.foldl (fun r a => r.record a.key a.outcome.isSuccess) .empty

def failures (ended : List (Attempt κ)) : List (κ × Fault) :=
  ended.filterMap fun a => a.outcome.fault?.map ((a.key, ·))

def count (tally : Tally) (ended : List (Attempt κ)) : Tally :=
  ended.foldl (fun t a => t.request a.outcome.isSuccess a.latency) tally

end CachePurge.Fanout
