import CachePurge.Proofs.Fleet.Charges
import CachePurge.Proofs.Fleet.Impartial
import CachePurge.Proofs.Observer

/-!
Senders that report their failures. Each request is one attempt, and the attempts may be collected
in any order that the machine can take: each one that failed is then reported once, under the label
of its key. A sender whose setting is beyond the limit attempts nothing and reports nothing. The
purger's own sender is one of these.
-/

namespace CachePurge.Fleet

variable {ε κ : Type} {s : Surroundings ε}

/-- An attempt comes of a request as the client and the network have it at some time. -/
def Attempted (s : Surroundings ε) (x : κ × Except Fault Http.Request) (a : Fanout.Attempt κ) :
    Prop :=
  ∃ e, a = (attempt s x.1 x.2 (.start e)).1

/-- Which attempts are made for requests from each state of the surroundings, one for each. -/
structure Making (s : Surroundings ε) where
  tags : List (Nat × Except Fault Http.Request) → ε → List (Fanout.Attempt Nat)
  pages : List (Uuid × Except Fault Http.Request) → ε → List (Fanout.Attempt Uuid)
  tags_attempted : ∀ requests e, List.Forall₂ (Attempted s) requests (tags requests e)
  pages_attempted : ∀ requests e, List.Forall₂ (Attempted s) requests (pages requests e)

/-- The attempts of requests that are made one after the other. -/
def inTurn (s : Surroundings ε) (requests : List (κ × Except Fault Http.Request)) (e : ε) :
    List (Fanout.Attempt κ) :=
  (requests.mapM (fun x => attempt s x.1 x.2) (.start e)).1

/-- What is attempted does not depend on what was counted or noted before. -/
theorem attempt_lockstep (s : Surroundings ε) (key : κ) (request : Except Fault Http.Request) :
    Lockstep Eq (fun l l' : Ledger ε => l.outside = l'.outside) (attempt s key request)
      (attempt s key request) := by
  refine (exchange_lockstep (fun event l l' same => ⟨rfl, same⟩) (fun message l l' same => ?_)
    request).bind_eq fun _ => .pure rfl
  rw [Ledger.ask, Ledger.ask, same]
  exact ⟨rfl, rfl⟩

theorem attempts_eq_inTurn (s : Surroundings ε) (requests : List (κ × Except Fault Http.Request))
    (l : Ledger ε) :
    (requests.mapM (fun x => attempt s x.1 x.2) l).1 = inTurn s requests l.outside :=
  (Lockstep.mapM (fun x => attempt_lockstep s x.1 x.2) requests l (.start l.outside) rfl).1

theorem inTurn_cons (s : Surroundings ε) (x : κ × Except Fault Http.Request)
    (rest : List (κ × Except Fault Http.Request)) (l : Ledger ε) :
    inTurn s (x :: rest) l.outside =
      (attempt s x.1 x.2 l).1 :: inTurn s rest (attempt s x.1 x.2 l).2.outside := by
  rw [← attempts_eq_inTurn, mapM_cons_apply, attempts_eq_inTurn]

theorem inTurn_attempted (s : Surroundings ε) (requests : List (κ × Except Fault Http.Request))
    (e : ε) : List.Forall₂ (Attempted s) requests (inTurn s requests e) := by
  induction requests generalizing e with
  | nil => exact .nil
  | cons x rest ih =>
      have first := inTurn_cons s x rest (.start e)
      exact first ▸ .cons ⟨e, rfl⟩ (ih _)

/-- The purger's own way makes its attempts one after the other. -/
def Making.inTurn (s : Surroundings ε) : Making s where
  tags := Fleet.inTurn s
  pages := Fleet.inTurn s
  tags_attempted := inTurn_attempted s
  pages_attempted := inTurn_attempted s

/-- The same attempt under the text that its failure is reported under. -/
def relabel (label : κ → String) (a : Fanout.Attempt κ) : Fanout.Attempt String :=
  { a with key := label a.key }

theorem failures_relabel (label : κ → String) (attempts : List (Fanout.Attempt κ)) :
    Fanout.failures (attempts.map (relabel label)) =
      (Fanout.failures attempts).map fun x => (label x.1, x.2) := by
  rw [Fanout.failures, Fanout.failures, List.filterMap_map, List.map_filterMap]
  refine List.filterMap_congr fun a _ => ?_
  rw [Function.comp_apply, relabel, Option.map_map]
  rfl

/-- Sending goes in some order that the machine's steps may take under a setting, and reports what
it collects as failures, in that order, under the labels of their keys. -/
def Tells (setting : Nat) (label : κ → String)
    (made : List (κ × Except Fault Http.Request) → ε → List (Fanout.Attempt κ))
    (send : List (κ × Except Fault Http.Request) →
      StateM (Ledger ε) (Except Panic (Fanout.Results κ))) : Prop :=
  ∀ requests l, match Fanout.Machine.start setting (made requests l.outside) l.tally with
    | .error panic => send requests l = (.error panic, l)
    | .ok first => ∃ last, Fanout.Machine.Reaches first last ∧ last.phase = .returned ∧
        (send requests l).1 = .ok last.results ∧
        notices (send requests l).2 =
          notices l ++ last.failures.map fun x => .failed (label x.1) x.2

/-- Groups of tags are reported under their numbers and pages under their ids. -/
def Sender.Tells (send : Sender ε) (setting : Nat) (made : Making s) : Prop :=
  Fleet.Tells setting Nat.repr made.tags send.tags ∧
    Fleet.Tells setting Uuid.toText made.pages send.pages

theorem exchange_tells_nothing (s : Surroundings ε) (request : Except Fault Http.Request) :
    Keeps notices (exchange s request) := by
  intro l
  obtain ⟨seen, trace⟩ := exchange_trace s request l
  rw [notices, Ledger.notices, trace, List.filterMap_append]
  cases request.toOption <;> exact List.append_nil _

theorem attempt_tells_nothing (s : Surroundings ε) (key : κ)
    (request : Except Fault Http.Request) : Keeps notices (attempt s key request) :=
  (exchange_tells_nothing s request).bind fun _ => .pure _

theorem fanOut_tells (s : Surroundings ε) (setting : Nat) (label : κ → String) :
    Tells setting label (inTurn s) (fanOut s setting label) := by
  intro requests l
  have made := attempts_eq_inTurn s requests l
  by_cases within : setting ≤ Fanout.maxConcurrency
  · obtain ⟨first, last, started, run, returned, results, -, failures⟩ :=
      Fanout.reaches_schedule setting (inTurn s requests l.outside) l.tally within
    have kept := Keeps.mapM (fun x => attempt_tells_nothing s x.1 x.2) requests l
    rw [started]
    rw [fanOut_apply s within label requests l, made]
    refine ⟨last, run, returned, congrArg _ results.symm, ?_⟩
    rw [failures, ← kept]
    refine List.filterMap_append.trans (congrArg _ ?_)
    rw [List.filterMap_map]
    exact congrFun List.filterMap_eq_map _
  · have beyond := Nat.lt_of_not_le within
    rw [Fanout.Machine.start, if_pos beyond]
    exact fanOut_of_lt s beyond label requests l

/-- The purger's own sender is one of those that report so. -/
theorem Sender.fanOut_tells (s : Surroundings ε) (setting : Nat) :
    (Sender.fanOut s setting).Tells setting (.inTurn s) :=
  ⟨Fleet.fanOut_tells s setting _, Fleet.fanOut_tells s setting _⟩

section Tells
variable {setting : Nat} {label : κ → String}
  {made : List (κ × Except Fault Http.Request) → ε → List (Fanout.Attempt κ)}
  {send : List (κ × Except Fault Http.Request) →
    StateM (Ledger ε) (Except Panic (Fanout.Results κ))}

/-- From one ledger to another the failures of some attempts were told, in some order, and nothing
else. -/
def Reports (l : Ledger ε) (attempts : List (Fanout.Attempt String)) (l' : Ledger ε) : Prop :=
  ∃ failures : List (String × Fault), failures.Perm (Fanout.failures attempts) ∧
    notices l' = notices l ++ failures.map fun x => .failed x.1 x.2

theorem Reports.later {l l₁ l' : Ledger ε} {attempts : List (Fanout.Attempt String)}
    (reports : Reports l₁ attempts l') (before : notices l₁ = notices l) :
    Reports l attempts l' := by
  rw [Reports, ← before]
  exact reports

theorem Tells.beyond (tells : Tells setting label made send)
    (beyond : Fanout.maxConcurrency < setting)
    (requests : List (κ × Except Fault Http.Request)) (l : Ledger ε) :
    send requests l = (.error Fanout.tooManyPermits, l) := by
  have run := tells requests l
  rwa [Fanout.Machine.start, if_pos beyond] at run

/-- Whatever the order, each attempt that failed is collected and reported once. -/
theorem Tells.within (tells : Tells setting label made send)
    (within : setting ≤ Fanout.maxConcurrency)
    (requests : List (κ × Except Fault Http.Request)) (l : Ledger ε) :
    ∃ results l', send requests l = (.ok results, l') ∧
      Reports l ((made requests l.outside).map (relabel label)) l' := by
  have run := tells requests l
  rw [Fanout.Machine.start, if_neg (Nat.not_lt.mpr within)] at run
  obtain ⟨last, steps, returned, answer, told⟩ := run
  have start := Fanout.Machine.start_invariant setting (made requests l.outside) l.tally
  obtain ⟨collected, finished, perm, -, -, failures, -⟩ :=
    (Fanout.Machine.Reaches.invariant steps start).complete returned
  refine ⟨last.results, (send requests l).2, Prod.ext answer rfl,
    last.failures.map fun x => (label x.1, x.2), ?_, ?_⟩
  · rw [failures_relabel, failures]
    exact (perm.filterMap _).map _
  · rw [told, List.map_map]
    rfl

/-- Sends requests and settles a batch by their results; it stays as it is if sending is refused. -/
def sendThen (send : List (κ × Except Fault Http.Request) →
      StateM (Ledger ε) (Except Panic (Fanout.Results κ)))
    (requests : List (κ × Except Fault Http.Request)) (batch : List Invalidation)
    (settle : Fanout.Results κ → StateM (Ledger ε) (List Invalidation)) :
    StateM (Ledger ε) (List Invalidation × Ending) := do
  match ← send requests with
  | .error panic => return (batch, .panicked panic)
  | .ok results => return (← settle results, .done)

theorem sendThen_beyond (tells : Tells setting label made send)
    (beyond : Fanout.maxConcurrency < setting)
    (requests : List (κ × Except Fault Http.Request)) (batch : List Invalidation)
    (settle : Fanout.Results κ → StateM (Ledger ε) (List Invalidation)) (l : Ledger ε) :
    sendThen send requests batch settle l = ((batch, .panicked Fanout.tooManyPermits), l) := by
  simp only [sendThen, bind_apply, tells.beyond beyond]
  rfl

theorem sendThen_within (tells : Tells setting label made send)
    (within : setting ≤ Fanout.maxConcurrency)
    (requests : List (κ × Except Fault Http.Request)) (batch : List Invalidation)
    {settle : Fanout.Results κ → StateM (Ledger ε) (List Invalidation)}
    (quiet : ∀ results, Keeps notices (settle results)) (l : Ledger ε) :
    (sendThen send requests batch settle l).1.2 = .done ∧
      Reports l ((made requests l.outside).map (relabel label))
        (sendThen send requests batch settle l).2 := by
  obtain ⟨results, l', sent, failures, perm, told⟩ := tells.within within requests l
  simp only [sendThen, bind_apply, sent]
  exact ⟨rfl, failures, perm, (quiet results l').trans told⟩

end Tells

end CachePurge.Fleet
