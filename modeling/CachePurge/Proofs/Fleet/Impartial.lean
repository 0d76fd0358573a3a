import CachePurge.Proofs.Fleet.Sender
import CachePurge.Proofs.Lockstep

/-!
Programs that do not look at how many invalidations were counted as failed. From ledgers that
differ in nothing else they come to the same, and to ledgers that again differ in nothing else. The
purger's own way of sending is one of them.
-/

namespace CachePurge

variable {ε : Type}

namespace Ledger

/-- The ledger with another count of failures. -/
def withFailed (l : Ledger ε) (n : UInt64) : Ledger ε :=
  { l with tally := { l.tally with failed := n } }

/-- The same ledger but for the count of failures. -/
def Alike (l l' : Ledger ε) : Prop := ∃ n, l' = l.withFailed n

theorem Alike.refl (l : Ledger ε) : l.Alike l := ⟨l.tally.failed, rfl⟩

theorem Alike.symm {l l' : Ledger ε} (alike : l.Alike l') : l'.Alike l := by
  obtain ⟨n, rfl⟩ := alike
  exact ⟨l.tally.failed, rfl⟩

theorem Alike.trans {l l' l'' : Ledger ε} (first : l.Alike l') (second : l'.Alike l'') :
    l.Alike l'' := by
  obtain ⟨n, rfl⟩ := first
  obtain ⟨m, rfl⟩ := second
  exact ⟨m, rfl⟩

theorem Alike.requests {l l' : Ledger ε} (alike : l.Alike l') : l'.requests = l.requests := by
  obtain ⟨n, rfl⟩ := alike
  rfl

theorem Alike.requestsSent {l l' : Ledger ε} (alike : l.Alike l') :
    l'.tally.requestsSent = l.tally.requestsSent := by
  obtain ⟨n, rfl⟩ := alike
  rfl

theorem Alike.requestsFailed {l l' : Ledger ε} (alike : l.Alike l') :
    l'.tally.requestsFailed = l.tally.requestsFailed := by
  obtain ⟨n, rfl⟩ := alike
  rfl

theorem note_alike (event : Event) : Lockstep Eq (Alike (ε := ε)) (note event) (note event) := by
  rintro l _ ⟨n, rfl⟩
  exact ⟨rfl, n, rfl⟩

theorem ask_alike {α : Type} (question : StateM ε α) :
    Lockstep Eq (Alike (ε := ε)) (ask question) (ask question) := by
  rintro l _ ⟨n, rfl⟩
  exact ⟨rfl, n, rfl⟩

theorem count_alike (success : Bool) (k : Nat) :
    Lockstep Eq (Alike (ε := ε)) (count success k) (count success k) := by
  rintro l _ ⟨n, rfl⟩
  cases success with
  | true => exact ⟨rfl, n, rfl⟩
  | false => exact ⟨rfl, n + k.toUInt64, rfl⟩

theorem within_alike {α β : Type} {ρ : α → β → Prop} (handler : Kind)
    {body : StateM (Ledger ε) α} {body' : StateM (Ledger ε) β}
    (inside : Lockstep ρ Alike body body') :
    Lockstep ρ Alike (within handler body) (within handler body') :=
  (note_alike _).bind_eq fun _ => inside.bind fun _ _ related =>
    (note_alike _).bind_eq fun _ => .pure related

end Ledger

open Ledger (Alike)

namespace Fanout
variable {κ : Type}

theorem count_withFailed (ended : List (Attempt κ)) (t : Tally) (n : UInt64) :
    count { t with failed := n } ended = { count t ended with failed := n } := by
  induction ended generalizing t with
  | nil => rfl
  | cons a rest ih => exact ih (t.request a.outcome.isSuccess a.latency)

end Fanout

namespace Fleet

theorem exchange_lockstep {s : Surroundings ε} {R : Ledger ε → Ledger ε → Prop}
    (noted : ∀ event, Lockstep Eq R (Ledger.note event) (Ledger.note event))
    (delivered : ∀ message,
      Lockstep Eq R (Ledger.ask (s.deliver message)) (Ledger.ask (s.deliver message)))
    (request : Except Fault Http.Request) :
    Lockstep Eq R (exchange s request) (exchange s request) := by
  cases request with
  | error fault => exact .pure rfl
  | ok request =>
      refine (Lockstep.send noted delivered true request).bind_eq fun (reply, took) => ?_
      cases reply with
      | error fault => exact .pure rfl
      | ok response =>
          dsimp only
          split
          · exact .pure rfl
          · exact .pure rfl

theorem exchange_alike (s : Surroundings ε) (request : Except Fault Http.Request) :
    Lockstep Eq Alike (exchange s request) (exchange s request) :=
  exchange_lockstep Ledger.note_alike (fun _ => Ledger.ask_alike _) request

section FanOut
variable {κ : Type} (s : Surroundings ε) (concurrency : Nat) (label : κ → String)

theorem fanOut_alike (requests : List (κ × Except Fault Http.Request)) :
    Lockstep Eq Alike (fanOut s concurrency label requests)
      (fanOut s concurrency label requests) := by
  intro l l' alike
  by_cases within : concurrency ≤ Fanout.maxConcurrency
  · have each (x : κ × Except Fault Http.Request) :
        Lockstep Eq Alike (attempt s x.1 x.2) (attempt s x.1 x.2) :=
      (exchange_alike s x.2).bind_eq fun _ => .pure rfl
    obtain ⟨same, n, left⟩ := Lockstep.mapM each requests l l' alike
    rw [fanOut_apply s within, fanOut_apply s within, ← same, left]
    refine ⟨rfl, n, ?_⟩
    dsimp only [Ledger.withFailed]
    rw [Fanout.count_withFailed]
  · have beyond := Nat.lt_of_not_le within
    rw [fanOut_of_lt s beyond, fanOut_of_lt s beyond]
    exact ⟨rfl, alike⟩

end FanOut

/-- Nothing was sent from one ledger to another, and no request was counted. -/
structure Idle (l l' : Ledger ε) : Prop where
  requests : l'.requests = l.requests
  requestsSent : l'.tally.requestsSent = l.tally.requestsSent
  requestsFailed : l'.tally.requestsFailed = l.tally.requestsFailed

theorem Idle.trans {l l' l'' : Ledger ε} (first : Idle l l') (second : Idle l' l'') :
    Idle l l'' :=
  ⟨second.requests.trans first.requests, second.requestsSent.trans first.requestsSent,
    second.requestsFailed.trans first.requestsFailed⟩

theorem ask_idle {α : Type} (question : StateM ε α) (l : Ledger ε) :
    Idle l (Ledger.ask question l).2 := ⟨rfl, rfl, rfl⟩

theorem within_idle {α : Type} (handler : Kind) {body : StateM (Ledger ε) α}
    (idle : ∀ l, Idle l (body l).2) (l : Ledger ε) : Idle l (Ledger.within handler body l).2 := by
  have note (event : Event) (none : event.request? = none) (l : Ledger ε) :
      Idle l (Ledger.note event l).2 :=
    ⟨by rw [Ledger.requests_note, none, Option.toList_none, List.append_nil], rfl, rfl⟩
  exact ((note (.enter handler) rfl l).trans (idle _)).trans (note (.exit handler) rfl _)

/-- Sending does not look at how many invalidations were counted as failed, and does nothing if
there is nothing to be sent. -/
structure Impartial {κ : Type} (send : List (κ × Except Fault Http.Request) →
    StateM (Ledger ε) (Except Panic (Fanout.Results κ))) : Prop where
  alike : ∀ requests, Lockstep Eq Alike (send requests) (send requests)
  idle : ∀ l, Idle l (send [] l).2

theorem fanOut_impartial {κ : Type} (s : Surroundings ε) (concurrency : Nat) (label : κ → String) :
    Impartial (fanOut s concurrency label) where
  alike := fanOut_alike s concurrency label
  idle l := by
    by_cases within : concurrency ≤ Fanout.maxConcurrency
    · have none : Fanout.byEnd (Fanout.spans concurrency ([] : List (Fanout.Attempt κ))) [] = [] :=
        (Fanout.byEnd_perm (Fanout.length_spans concurrency [])).eq_nil
      rw [fanOut_apply s within, List.mapM_nil, pure_apply, none]
      refine ⟨?_, rfl, rfl⟩
      exact congrArg (List.filterMap Event.request?) (List.append_nil l.trace)
    · rw [fanOut_of_lt s (Nat.lt_of_not_le within)]
      exact ⟨rfl, rfl, rfl⟩

/-- Both ways of sending are impartial. -/
def Sender.Impartial (send : Sender ε) : Prop :=
  Fleet.Impartial send.tags ∧ Fleet.Impartial send.pages

theorem Sender.fanOut_impartial (s : Surroundings ε) (concurrency : Nat) :
    (Sender.fanOut s concurrency).Impartial :=
  ⟨Fleet.fanOut_impartial s concurrency _, Fleet.fanOut_impartial s concurrency _⟩

end Fleet
end CachePurge
