/-!
Counters of requests and outcomes, and the latest latencies. Counters start over at `2^64`. At most
a thousand latencies are kept: the one that is too many drops the oldest five hundred.
-/

namespace CachePurge

/-- A double by its bits. -/
abbrev Latency := UInt64

/-- The place of a double in the total order: the negative ones in reverse below the others. -/
def Latency.rank (latency : Latency) : Nat :=
  if latency.toNat < 1 <<< 63 then 1 <<< 63 + latency.toNat else UInt64.size - 1 - latency.toNat

structure Tally where
  requestsSent : UInt64
  requestsFailed : UInt64
  succeeded : UInt64
  failed : UInt64
  latencies : List Latency
  deriving DecidableEq, Repr

namespace Tally

def zero : Tally := ⟨0, 0, 0, 0, []⟩

def maxLatencies : Nat := 1000

def keepLatest (latencies : List Latency) : List Latency :=
  if maxLatencies < latencies.length then latencies.drop (maxLatencies / 2) else latencies

def request (t : Tally) (success : Bool) (latency : Latency) : Tally :=
  { t with
    requestsSent := t.requestsSent + 1
    requestsFailed := if success then t.requestsFailed else t.requestsFailed + 1
    latencies := keepLatest (t.latencies ++ [latency]) }

def outcome (t : Tally) (success : Bool) (count : Nat) : Tally :=
  if success then { t with succeeded := t.succeeded + count.toUInt64 }
  else { t with failed := t.failed + count.toUInt64 }

def sortedLatencies (t : Tally) : List Latency :=
  t.latencies.mergeSort fun a b => decide (a.rank ≤ b.rank)

/-- The place of the latency below which some hundredths of so many lie, by a product of doubles
that is cut off after the point. -/
def percentilePlace (length hundredths : Nat) : Nat :=
  (length.toUInt64.toFloat * Float.ofScientific hundredths true 2).toUInt64.toNat

/-- The latency below which some hundredths of the kept ones lie; zero without any. -/
def percentile (t : Tally) (hundredths : Nat) : Latency :=
  let sorted := t.sortedLatencies
  sorted.getD (min (percentilePlace sorted.length hundredths) (sorted.length - 1)) 0

end Tally
end CachePurge
