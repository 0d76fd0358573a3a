import CachePurge.Proofs.Double
import CachePurge.Proofs.Shared
import CachePurge.Tally
import Mathlib.Data.List.Induction

/-!
Which latencies a tally keeps, and where its percentiles stand among them. The number of those kept
grows to the most that may be, and from then on goes up and down by half of it. A percentile is at
the place that integers give, though it is computed with doubles.
-/

namespace CachePurge

theorem Latency.rank_injective {a b : Latency} (same : a.rank = b.rank) : a = b := by
  have small (x : Latency) : x.toNat < 2 ^ 64 := x.toNat_lt
  have small_a := small a
  have small_b := small b
  refine UInt64.toNat_inj.mp ?_
  simp only [Latency.rank, UInt64.size, Nat.shiftLeft_eq] at same
  split at same
  · split at same
    · omega
    · omega
  · split at same
    · omega
    · omega

namespace Tally

/-- What is reported to a tally. -/
inductive Report where
  | request (success : Bool) (latency : Latency)
  | outcome (success : Bool) (count : Nat)

namespace Report

def apply (t : Tally) : Report → Tally
  | .request success latency => t.request success latency
  | .outcome success count => t.outcome success count

def latency? : Report → Option Latency
  | .request _ latency => some latency
  | .outcome _ _ => none

end Report

/-- How many of some number of latencies are kept. -/
def kept (n : Nat) : Nat := if n ≤ 1000 then n else 501 + (n - 1001) % 500

theorem kept_le (n : Nat) : kept n ≤ n ∧ kept n ≤ 1000 := by
  rw [kept]
  split
  · omega
  · omega

theorem kept_pos {n : Nat} (some : 0 < n) : 0 < kept n := by
  rw [kept]
  split
  · exact some
  · omega

theorem kept_few {n : Nat} (few : n ≤ 1000) : kept n = n := if_pos few

theorem kept_many (m : Nat) : kept (1001 + m) = 501 + m % 500 := by
  rw [kept, if_neg (by omega), Nat.add_sub_cancel_left]

/-- One more latency is kept, or half of the most that may be are dropped. -/
theorem kept_succ (n : Nat) :
    kept (n + 1) = if kept n = 1000 then 501 else kept n + 1 := by
  by_cases few : n ≤ 1000
  · rw [kept_few few]
    split
    · next full => rw [full]; rfl
    · next room => rw [kept_few (by omega)]
  · obtain ⟨m, rfl⟩ := Nat.exists_eq_add_of_le (Nat.lt_of_not_le few)
    rw [kept_many, Nat.add_assoc, kept_many]
    split
    · omega
    · omega

theorem latencies_outcome (t : Tally) (success : Bool) (count : Nat) :
    (t.outcome success count).latencies = t.latencies := by
  rw [outcome]
  split
  · rfl
  · rfl

/-- The latest of some latencies, as many as are kept. -/
def latest (all : List Latency) : List Latency := all.drop (all.length - kept all.length)

theorem length_latest (all : List Latency) : (latest all).length = kept all.length := by
  have le := (kept_le all.length).1
  rw [latest, List.length_drop]
  omega

theorem keepLatest_latest (all : List Latency) (latency : Latency) :
    keepLatest (latest all ++ [latency]) = latest (all ++ [latency]) := by
  have grown : (latest all ++ [latency]).length = kept all.length + 1 := by
    rw [List.length_append, length_latest, List.length_singleton]
  have bounds := kept_le all.length
  have joined : latest all ++ [latency] =
      (all ++ [latency]).drop (all.length - kept all.length) := by
    rw [latest, List.drop_append_of_le_length (by omega)]
  have left : latest (all ++ [latency]) = (all ++ [latency]).drop
      (all.length + 1 - if kept all.length = 1000 then 501 else kept all.length + 1) := by
    rw [latest, List.length_append, List.length_singleton, kept_succ]
  rw [keepLatest, grown, left]
  by_cases full : kept all.length = 1000
  · have places : all.length - kept all.length + maxLatencies / 2 = all.length + 1 - 501 := by
      rw [maxLatencies]
      omega
    rw [if_pos (by rw [full]; decide), if_pos full, joined, List.drop_drop, places]
  · have places : all.length - kept all.length = all.length + 1 - (kept all.length + 1) := by omega
    rw [if_neg (by rw [maxLatencies]; omega), if_neg full, joined, ← places]

/-- Whatever is reported, the latest latencies are kept in the order in which they came. -/
theorem latencies_reports (reports : List Report) :
    (reports.foldl Report.apply zero).latencies = latest (reports.filterMap Report.latency?) := by
  induction reports using List.reverseRecOn with
  | nil => rfl
  | append_singleton reports report ih =>
      rw [List.foldl_append, List.filterMap_append]
      cases report with
      | request success latency =>
          exact (congrArg (keepLatest <| · ++ [latency]) ih).trans (keepLatest_latest _ latency)
      | outcome success count =>
          have none : [Report.outcome success count].filterMap Report.latency? = [] := rfl
          rw [none, List.append_nil, ← ih]
          exact latencies_outcome _ success count

/-- The double nearest to some hundredths, by its bits. -/
theorem unpack_share {hundredths : Nat} {bits : UInt64}
    (same : (Float.ofScientific hundredths true 2).toBits = bits) :
    (Float.ofScientific hundredths true 2).toModel.unpack =
      Float.Model.UnpackedFloat.unpack .binary64 bits.toBitVec := by
  rw [← same]
  rfl

section Place
variable {n : Nat} (some : 0 < n) (few : n < 2 ^ 46)

include some few

theorem percentilePlace_fifty : percentilePlace n 50 = n / 2 := by
  have bits : (Float.ofScientific 50 true 2).toBits = 0x3FE0000000000000 := by decide +kernel
  have unpacked : (Float.ofScientific 50 true 2).toModel.unpack =
      .finite .positive 0x10000000000000 (-53) (by decide) := unpack_share bits
  exact Double.toUInt64_mul unpacked rfl some (by omega) (by omega) (by omega)

/-- The double nearest to `0.99` is less than that, but not by so much that it shows. -/
theorem percentilePlace_ninetyNine : percentilePlace n 99 = 99 * n / 100 := by
  have bits : (Float.ofScientific 99 true 2).toBits = 0x3FEFAE147AE147AE := by decide +kernel
  have unpacked : (Float.ofScientific 99 true 2).toModel.unpack =
      .finite .positive 0x1FAE147AE147AE (-53) (by decide) := unpack_share bits
  exact Double.toUInt64_mul unpacked rfl some (by omega) (by omega) (by omega)

end Place

theorem sortedLatencies_perm (t : Tally) : t.sortedLatencies.Perm t.latencies :=
  List.mergeSort_perm _ _

theorem length_sortedLatencies (t : Tally) : t.sortedLatencies.length = t.latencies.length :=
  t.sortedLatencies_perm.length_eq

theorem pairwise_sortedLatencies (t : Tally) : t.sortedLatencies.Pairwise (·.rank ≤ ·.rank) := by
  have sorted : t.sortedLatencies.Pairwise fun a b => decide (a.rank ≤ b.rank) = true :=
    List.pairwise_mergeSort (fun a b c => by simp only [decide_eq_true_eq]; omega)
      (fun a b => by simp only [Bool.or_eq_true, decide_eq_true_eq]; omega) _
  simp only [decide_eq_true_eq] at sorted
  exact sorted

/-- Latencies can be sorted in only one way. -/
theorem sortedLatencies_congr {t t' : Tally} (same : t.latencies.Perm t'.latencies) :
    t.sortedLatencies = t'.sortedLatencies := by
  have perm := (t.sortedLatencies_perm.trans same).trans t'.sortedLatencies_perm.symm
  refine perm.eq_of_pairwise (fun a b _ _ before after => ?_) t.pairwise_sortedLatencies
    t'.pairwise_sortedLatencies
  exact Latency.rank_injective (Nat.le_antisymm before after)

theorem percentile_congr {t t' : Tally} (same : t.latencies.Perm t'.latencies) (hundredths : Nat) :
    t.percentile hundredths = t'.percentile hundredths := by
  rw [percentile, sortedLatencies_congr same]
  rfl

theorem percentile_of_nil {t : Tally} (none : t.latencies = []) (hundredths : Nat) :
    t.percentile hundredths = 0 := by
  have empty : t.sortedLatencies = [] := by
    rw [← List.length_eq_zero_iff, length_sortedLatencies, none, List.length_nil]
  rw [percentile, empty]
  rfl

theorem getElem?_percentile {t : Tally} {hundredths i : Nat}
    (place : percentilePlace t.latencies.length hundredths = i) (inside : i < t.latencies.length) :
    t.sortedLatencies[i]? = some (t.percentile hundredths) := by
  have bound : i < t.sortedLatencies.length := by rwa [length_sortedLatencies]
  have clamped : min i (t.sortedLatencies.length - 1) = i := by omega
  rw [← length_sortedLatencies] at place
  rw [percentile, place, clamped, List.getD_eq_getElem?_getD, List.getElem?_eq_getElem bound,
    Option.getD_some]

/-- What the percentiles of a tally that keeps some latencies are: two of those, at two places of
their order. -/
structure Percentiles (t : Tally) (length : Nat) (sorted : List Latency) : Prop where
  same : sorted.Perm t.latencies
  ascending : sorted.Pairwise (·.rank ≤ ·.rank)
  inside : length / 2 < length ∧ 99 * length / 100 < length
  fifty : sorted[length / 2]? = some (t.percentile 50)
  ninetyNine : sorted[99 * length / 100]? = some (t.percentile 99)
  ordered : (t.percentile 50).rank ≤ (t.percentile 99).rank
  kept : t.percentile 50 ∈ t.latencies ∧ t.percentile 99 ∈ t.latencies

theorem percentiles {t : Tally} (some : 0 < t.latencies.length)
    (few : t.latencies.length ≤ 1000) : t.Percentiles t.latencies.length t.sortedLatencies := by
  have inside : t.latencies.length / 2 < t.latencies.length ∧
      99 * t.latencies.length / 100 < t.latencies.length := by omega
  have fifty := getElem?_percentile
    (percentilePlace_fifty some (Nat.lt_of_le_of_lt few (by decide))) inside.1
  have ninetyNine := getElem?_percentile
    (percentilePlace_ninetyNine some (Nat.lt_of_le_of_lt few (by decide))) inside.2
  constructor
  case same => exact t.sortedLatencies_perm
  case ascending => exact t.pairwise_sortedLatencies
  case inside => exact inside
  case fifty => exact fifty
  case ninetyNine => exact ninetyNine
  case ordered =>
    obtain ⟨bound, at_fifty⟩ := List.getElem?_eq_some_iff.mp fifty
    obtain ⟨bound', at_ninetyNine⟩ := List.getElem?_eq_some_iff.mp ninetyNine
    rw [← at_fifty, ← at_ninetyNine]
    rcases Nat.eq_or_lt_of_le (show t.latencies.length / 2 ≤ 99 * t.latencies.length / 100 by omega)
      with one | before
    · simp only [one, Nat.le_refl]
    · exact List.pairwise_iff_getElem.mp t.pairwise_sortedLatencies _ _ bound bound' before
  case kept =>
    exact ⟨t.sortedLatencies_perm.mem_iff.mp (List.mem_of_getElem? fifty),
      t.sortedLatencies_perm.mem_iff.mp (List.mem_of_getElem? ninetyNine)⟩

section History
variable {tallies tallies' : Shared Tally} {first : tallies.Reference} {r : tallies'.Reference}
  {reports : List Report}

/-- Through each of its clones a tally shows the latest of the latencies that were reported to any
of them, and the percentiles of those, which do not depend on the order in which they came. -/
theorem keeps_latest (fresh : tallies.get first = zero)
    (uses : tallies.Uses Report.apply (tallies.place first) reports tallies')
    (same : tallies'.place r = tallies.place first) :
    let all := reports.filterMap Report.latency?
    let t := tallies'.get r
    (t.latencies = all.drop (all.length - kept all.length) ∧
        t.latencies.length = kept all.length ∧ kept all.length ≤ 1000) ∧
      (all = [] → t.percentile 50 = 0 ∧ t.percentile 99 = 0) ∧
      (all ≠ [] → ∃ sorted, t.Percentiles (kept all.length) sorted) ∧
      ∀ other : Tally, other.latencies.Perm t.latencies →
        other.percentile 50 = t.percentile 50 ∧ other.percentile 99 = t.percentile 99 := by
  intro all t
  have left : t.latencies = latest all := by
    rw [← latencies_reports, ← fresh]
    exact congrArg Tally.latencies (uses.get same)
  have length : t.latencies.length = kept all.length := by rw [left, length_latest]
  have bound := (kept_le all.length).2
  refine ⟨⟨left, length, bound⟩, fun none => ?_, fun some => ?_, fun other perm => ?_⟩
  · have empty : t.latencies = [] := by rw [left, none]; rfl
    exact ⟨percentile_of_nil empty 50, percentile_of_nil empty 99⟩
  · have positive : 0 < kept all.length := kept_pos (List.length_pos_iff.mpr some)
    rw [← length] at positive bound ⊢
    exact ⟨_, percentiles positive bound⟩
  · exact ⟨percentile_congr perm 50, percentile_congr perm 99⟩

end History

/-- Of two clones one was told of a latency of seven, and then the other one of five. -/
theorem keeps_latest_clones :
    let tallies := Shared.empty.share zero
    let clones := tallies.clone ⟨0, by decide⟩
    let once := clones.change ⟨1, by decide⟩ (Report.apply · (.request true 7))
    let twice := once.change ⟨0, by decide⟩ (Report.apply · (.request false 5))
    let t := twice.get ⟨0, by decide⟩
    t.latencies = [7, 5] ∧ ∃ sorted, t.Percentiles 2 sorted := by
  intro tallies clones once twice t
  have cloned : tallies.Uses Report.apply 0 [] clones := .clone _ .none
  have first := cloned.act ⟨1, by decide⟩ (.request true 7) rfl
  have second := first.act ⟨0, by decide⟩ (.request false 5) rfl
  have fresh : tallies.get ⟨0, by decide⟩ = zero := rfl
  have same : twice.place ⟨0, by decide⟩ = tallies.place ⟨0, by decide⟩ := rfl
  obtain ⟨⟨latencies, -, -⟩, -, percentiles, -⟩ := keeps_latest fresh second same
  exact ⟨latencies, percentiles (by decide)⟩

end Tally
end CachePurge
