import CachePurge.Proofs.Fleet.Sender
import CachePurge.Proofs.Purger.Split

/-!
What the handlers of an edge fleet make of their batches, whatever sends for them: no state goes
back and, unless the sending breaks off, every invalidation is settled.
-/

namespace CachePurge.Fleet

open Invalidation (Moved)
open Purger (Handled)

variable {ε : Type}

theorem admitTag_moves (inv : Invalidation) : inv.MovesTo (admitTag inv) := by
  rw [admitTag]
  split <;> exact inv.advance_moves _

theorem admitPage_moves (inv : Invalidation) : inv.MovesTo (admitPage inv) := by
  rw [admitPage]
  split <;> exact inv.advance_moves _

theorem settlePage_moves (results : Fanout.Results Uuid) (inv : Invalidation) :
    inv.MovesTo (settlePage results inv) := by
  rw [settlePage]
  split
  · exact .refl inv
  · exact inv.advance_moves _

theorem isTerminal_settlePage (results : Fanout.Results Uuid) (inv : Invalidation) :
    (settlePage results inv).isTerminal := by
  rw [settlePage]
  split
  · assumption
  · exact inv.isTerminal_settle _

theorem isTerminal_admitTag {inv : Invalidation} (rejected : isSendable inv = false) :
    (admitTag inv).isTerminal :=
  admitTag_of_not_isSendable rejected ▸ inv.isTerminal_fail

section By
variable (send : Sender ε) (s : Surroundings ε)

theorem banGroupsBy_handled (salt : String) {groups : List (List Invalidation)}
    {batch : List Invalidation} (all : groups.flatten = batch.filter isSendable)
    (rejected : ∀ inv ∈ batch, isSendable inv = false → inv.isTerminal) (l : Ledger ε) :
    Handled batch (banGroupsBy send s salt groups batch l).1 := by
  simp only [banGroupsBy, bind_apply]
  generalize send.tags _ _ = sent
  cases sent.1 with
  | error panic => exact .broken (Moved.refl batch) panic
  | ok results =>
      simp only [bind_apply, (settleTags_tallies groups results batch sent.2).1]
      refine ⟨Invalidation.advanceEach_moved _ batch _, fun _ => ?_⟩
      refine Invalidation.advanceEach_terminal ?_ (fun _ => isTerminal_of_mem_groupStates) rejected
      rw [length_groupStates, all, List.countP_eq_length_filter]

theorem purgeTagsBy_handled (size : Nat) (batch : List Invalidation) (l : Ledger ε) :
    Handled batch (purgeTagsBy send s size batch l).1 := by
  have admitted := Invalidation.moved_map admitTag_moves batch
  have rejected : ∀ inv ∈ batch.map admitTag, isSendable inv = false → inv.isTerminal := by
    refine List.forall_mem_map.mpr fun inv _ unfit => isTerminal_admitTag ?_
    rwa [isSendable_admitTag] at unfit
  simp only [purgeTagsBy, bind_apply, (admitTags_tallies batch l).1]
  split
  · next empty =>
      refine ⟨admitted, fun _ inv among => rejected inv among ?_⟩
      have none := groupsOf_eq_nil_iff.mp (List.isEmpty_iff.mp empty)
      simpa using List.filter_eq_nil_iff.mp none inv among
  · obtain ⟨moved, settled⟩ := banGroupsBy_handled send s
      (Ledger.ask s.siteIdentifier (admitTags batch l).2).1
      (flatten_groupsOf size _) rejected (Ledger.ask s.siteIdentifier (admitTags batch l).2).2
    exact ⟨admitted.trans moved, settled⟩

theorem purgePagesBy_handled (m : PageMethod) (batch : List Invalidation) (l : Ledger ε) :
    Handled batch (purgePagesBy send s m batch l).1 := by
  have admitted := Invalidation.moved_map admitPage_moves batch
  simp only [purgePagesBy, bind_apply]
  generalize send.pages _ _ = sent
  cases sent.1 with
  | error panic => exact .broken admitted panic
  | ok results =>
      simp only [bind_apply, (settlePages_tallies results _ sent.2).1]
      refine ⟨admitted.trans (Invalidation.moved_map (settlePage_moves results) _), fun _ => ?_⟩
      exact List.forall_mem_map.mpr fun inv _ => isTerminal_settlePage results inv

theorem purgeSite_handled (batch : List Invalidation) (l : Ledger ε) :
    Handled batch (purgeSite s batch l).1 where
  moved := (Invalidation.moved_map (fun inv => inv.advance_moves .processing) batch).trans
    (Invalidation.moved_map (fun inv => inv.advance_moves _) _)
  settled _ := List.forall_mem_map.mpr fun inv _ => inv.isTerminal_settle _

theorem handleBy_handled (size : Nat) (kind : Kind) (batch : List Invalidation) (l : Ledger ε) :
    Handled batch (handleBy send s size kind batch l).1 := by
  cases kind with
  | tag => exact purgeTagsBy_handled send s size batch l
  | url => exact purgePagesBy_handled send s exact batch l
  | wildcardUrl => exact purgePagesBy_handled send s pattern batch l
  | everything => exact purgeSite_handled s batch l

theorem purgerBy_handles (size : Nat) : (purgerBy send s size).Handles := fun kind batch _ =>
  ⟨_, rfl, handleBy_handled send s size kind batch _⟩

end By

theorem purger_handles (s : Surroundings ε) (pace : Pace) : (purger s pace).Handles :=
  purgerBy_handles (.fanOut s pace.concurrency) s pace.groupSize

end CachePurge.Fleet
