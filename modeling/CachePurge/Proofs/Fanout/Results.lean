import CachePurge.Fanout.Run
import CachePurge.Proofs.Tally

/-!
What a fan-out leaves of its attempts. A key has succeeded if something was attempted for it and
nothing of it failed, whatever the order in which the attempts ended; each of them is counted once.
-/

namespace CachePurge

namespace Fanout

variable {κ : Type}

/-- How many of some attempts did not succeed. -/
def failureCount (attempts : List (Attempt κ)) : Nat :=
  attempts.countP fun a => !a.outcome.isSuccess

theorem failureCount_cons (a : Attempt κ) (rest : List (Attempt κ)) :
    failureCount (a :: rest) = (if a.outcome.isSuccess then 0 else 1) + failureCount rest := by
  cases h : a.outcome.isSuccess <;> simp [failureCount, h, Nat.add_comm]

theorem length_failures (attempts : List (Attempt κ)) :
    (failures attempts).length = failureCount attempts := by
  induction attempts with
  | nil => rfl
  | cons a rest ih =>
      rw [failureCount_cons, ← ih]
      cases h : a.outcome.fault? with
      | none => simp [failures, Outcome.isSuccess, h]
      | some fault => simp [failures, Outcome.isSuccess, h, Nat.add_comm]

theorem count_cons (t : Tally) (a : Attempt κ) (rest : List (Attempt κ)) :
    count t (a :: rest) = count (t.request a.outcome.isSuccess a.latency) rest := rfl

theorem count_requestsSent (t : Tally) (ended : List (Attempt κ)) :
    (count t ended).requestsSent = t.requestsSent + UInt64.ofNat ended.length := by
  induction ended generalizing t with
  | nil => exact (UInt64.add_zero _).symm
  | cons a rest ih =>
      rw [count_cons, ih, Tally.request_sent, List.length_cons, Nat.add_comm rest.length,
        UInt64.ofNat_add, ← UInt64.add_assoc]
      rfl

theorem count_requestsFailed (t : Tally) (ended : List (Attempt κ)) :
    (count t ended).requestsFailed = t.requestsFailed + UInt64.ofNat (failureCount ended) := by
  induction ended generalizing t with
  | nil => exact (UInt64.add_zero _).symm
  | cons a rest ih =>
      rw [count_cons, ih, Tally.request_failed, failureCount_cons, UInt64.ofNat_add,
        ← UInt64.add_assoc]

/-- Requests and outcomes of invalidations are counted apart. -/
theorem count_gains (t : Tally) (ended : List (Attempt κ)) : t.Gains [] (count t ended) := by
  induction ended generalizing t with
  | nil => exact .refl t
  | cons a rest ih =>
      exact (Tally.request_gains t a.outcome.isSuccess a.latency).trans (ih _)

theorem results_outcomes (ended : List (Attempt κ)) :
    (results ended).outcomes = ended.map fun a => (a.key, a.outcome.isSuccess) := by
  have general (r : Results κ) :
      (ended.foldl (fun r a => r.record a.key a.outcome.isSuccess) r).outcomes =
        r.outcomes ++ ended.map fun a => (a.key, a.outcome.isSuccess) := by
    induction ended generalizing r with
    | nil => exact (List.append_nil _).symm
    | cons a rest ih =>
        rw [List.foldl_cons, ih]
        simp only [Results.record, List.map_cons, List.append_assoc, List.singleton_append]
  exact general .empty

section Keys
variable [BEq κ] [LawfulBEq κ]

theorem Results.succeeded_iff (r : Results κ) (key : κ) :
    r.succeeded key = true ↔
      (∃ o ∈ r.outcomes, o.1 = key) ∧ ∀ o ∈ r.outcomes, o.1 = key → o.2 = true := by
  have member (o : κ × Bool) : o ∈ r.outcomes.filter (·.1 == key) ↔ o ∈ r.outcomes ∧ o.1 = key := by
    rw [List.mem_filter, beq_iff_eq]
  simp only [succeeded, get?]
  cases found : r.outcomes.filter (·.1 == key) with
  | nil =>
      rw [List.map_nil, Option.any_none]
      constructor
      · intro absurd
        cases absurd
      · rintro ⟨⟨o, inside, same⟩, -⟩
        have := (member o).mpr ⟨inside, same⟩
        simp [found] at this
  | cons first rest =>
      have inside : first ∈ r.outcomes ∧ first.1 = key := (member first).mp (by simp [found])
      rw [List.map_cons, Option.any_some, ← List.map_cons, ← found]
      simp only [List.all_map, List.all_eq_true, member, Function.comp_apply, id_eq]
      exact ⟨fun all => ⟨⟨first, inside⟩, fun o h same => all o ⟨h, same⟩⟩,
        fun ⟨_, all⟩ o h => all o h.1 h.2⟩

/-- The order in which outcomes were collected does not matter to success. -/
theorem Results.succeeded_iff_of_perm {α : Type} {r : Results κ} {xs : List α} {f : α → κ × Bool}
    (perm : r.outcomes.Perm (xs.map f)) (key : κ) :
    r.succeeded key = true ↔
      (∃ x ∈ xs, (f x).1 = key) ∧ ∀ x ∈ xs, (f x).1 = key → (f x).2 = true := by
  simp only [Results.succeeded_iff, perm.mem_iff, List.forall_mem_map]
  refine and_congr_left fun _ => ⟨?_, ?_⟩
  · rintro ⟨o, inside, same⟩
    obtain ⟨x, found, rfl⟩ := List.mem_map.mp inside
    exact ⟨x, found, same⟩
  · rintro ⟨x, inside, same⟩
    exact ⟨f x, List.mem_map_of_mem inside, same⟩

end Keys

theorem length_scheduleAfter (limit : Nat) (ends : List Nat) (produced : Nat)
    (durations : List Nat) :
    (scheduleAfter limit ends produced durations).length = durations.length := by
  induction durations generalizing ends produced with
  | nil => rfl
  | cons duration rest ih => simp only [scheduleAfter, List.length_cons, ih]

theorem length_spans (concurrency : Nat) (attempts : List (Attempt κ)) :
    (spans concurrency attempts).length = attempts.length := by
  simp only [spans, schedule, length_scheduleAfter, List.length_map]

theorem byEnd_perm {α : Type} {spans : List Span} {things : List α}
    (length : spans.length = things.length) : (byEnd spans things).Perm things := by
  have sorted := (List.mergeSort_perm (spans.zip things) fun a b =>
    decide (a.1.finished ≤ b.1.finished)).map (·.2)
  rwa [List.map_snd_zip (Nat.le_of_eq length.symm)] at sorted

end Fanout
end CachePurge
