import CachePurge.Proofs.Fleet.Impartial
import CachePurge.Proofs.Fleet.Settled
import CachePurge.Rehearsal

/-!
What cannot be sent fails alone. Whatever malformed tags or pages are put into a batch, and
wherever, the same is sent for the others and they end in the same states; those put in fail.
-/

namespace CachePurge

/-- The second list is the first with some invalidations put in at some places, of which all have a
property. -/
inductive Interspersed (P : Invalidation → Prop) :
    (places : List Bool) → List Invalidation → List Invalidation → Prop where
  | nil : Interspersed P [] [] []
  | put {places : List Bool} {batch extended : List Invalidation} (inv : Invalidation) :
      P inv → Interspersed P places batch extended →
      Interspersed P (true :: places) batch (inv :: extended)
  | keep {places : List Bool} {batch extended : List Invalidation} (inv : Invalidation) :
      Interspersed P places batch extended →
      Interspersed P (false :: places) (inv :: batch) (inv :: extended)

namespace Interspersed

variable {P Q : Invalidation → Prop} {places : List Bool} {batch extended : List Invalidation}

theorem map {f : Invalidation → Invalidation} (each : ∀ inv, P inv → Q (f inv))
    (put : Interspersed P places batch extended) :
    Interspersed Q places (batch.map f) (extended.map f) := by
  induction put with
  | nil => exact .nil
  | put inv own _ ih => exact .put (f inv) (each inv own) ih
  | keep inv _ ih => exact .keep (f inv) ih

theorem imp (each : ∀ inv, P inv → Q inv) (put : Interspersed P places batch extended) :
    Interspersed Q places batch extended := by
  have mapped := put.map (f := id) each
  rwa [List.map_id, List.map_id] at mapped

theorem forall_mem (all : ∀ inv ∈ batch, Q inv) (each : ∀ inv, P inv → Q inv)
    (put : Interspersed P places batch extended) : ∀ inv ∈ extended, Q inv := by
  induction put with
  | nil => exact all
  | put inv own _ ih => exact List.forall_mem_cons.mpr ⟨each inv own, ih all⟩
  | keep inv _ ih =>
      obtain ⟨first, all⟩ := List.forall_mem_cons.mp all
      exact List.forall_mem_cons.mpr ⟨first, ih all⟩

theorem filter_eq {p : Invalidation → Bool} (dropped : ∀ inv, P inv → p inv = false)
    (put : Interspersed P places batch extended) : extended.filter p = batch.filter p := by
  induction put with
  | nil => rfl
  | put inv own _ ih => rw [List.filter_cons_of_neg (by simp [dropped inv own]), ih]
  | keep inv _ ih => rw [List.filter_cons, List.filter_cons, ih]

/-- States are given out past those that do not count. -/
theorem advanceEach {counts : Invalidation → Bool} (passed : ∀ inv, P inv → counts inv = false)
    (put : Interspersed P places batch extended) (states : List State) :
    Interspersed P places (Invalidation.advanceEach counts batch states)
      (Invalidation.advanceEach counts extended states) := by
  induction put generalizing states with
  | nil => exact .nil
  | put inv own _ ih =>
      rw [Invalidation.advanceEach_cons_of_not (passed inv own)]
      exact .put inv own (ih states)
  | keep inv rest ih =>
      cases states with
      | nil =>
          rw [Invalidation.advanceEach_nil, Invalidation.advanceEach_nil]
          exact .keep inv rest
      | cons next states =>
          simp only [Invalidation.advanceEach]
          split
          · exact .keep _ (ih states)
          · exact .keep inv (ih (next :: states))

end Interspersed

namespace Fleet

open Ledger (Alike)

variable {ε : Type} {P : Invalidation → Prop} {places : List Bool}
  {batch extended : List Invalidation}

/-- Two batches are left alike but for those put into the second, which have failed, and the calls
end alike. -/
def LeftAlike (places : List Bool) (run run' : List Invalidation × Ending) : Prop :=
  Interspersed (fun inv => inv.state = .failed) places run.1 run'.1 ∧ run.2 = run'.2

/-- Only the count of failures tells which tags were admitted. -/
theorem admitTags_keeps (batch : List Invalidation) (l : Ledger ε) :
    l.Alike (admitTags batch l).2 := by
  have each (inv : Invalidation) (l : Ledger ε) : l.Alike ((do
      unless isSendable inv do
        Ledger.count false 1
      return admitTag inv : StateM (Ledger ε) Invalidation) l).2 := by
    cases h : isSendable inv with
    | true => exact .refl l
    | false => exact ⟨_, rfl⟩
  rw [admitTags]
  induction batch generalizing l with
  | nil => exact .refl l
  | cons inv rest ih =>
      rw [mapM_cons_apply]
      exact (each inv l).trans (ih _)

theorem admitTags_alike
    (put : Interspersed (fun inv => isSendable inv = false ∧ inv.isTerminal = false) places batch
      extended) :
    Lockstep (Interspersed (fun inv => isSendable inv = false ∧ inv.state = .failed) places)
      (Alike (ε := ε)) (admitTags batch) (admitTags extended) := by
  intro l l' alike
  rw [(admitTags_tallies batch l).1, (admitTags_tallies extended l').1]
  refine ⟨put.map fun inv own => ?_, ?_⟩
  · rw [isSendable_admitTag, admitTag_of_not_isSendable own.1]
    exact ⟨own.1, State.advance_failed own.2⟩
  · exact (admitTags_keeps batch l).symm.trans (alike.trans (admitTags_keeps extended l'))

theorem settleTags_alike (groups : List (List Invalidation)) (results : Fanout.Results Nat)
    (put : Interspersed (fun inv => isSendable inv = false ∧ inv.state = .failed) places batch
      extended) :
    Lockstep (Interspersed (fun inv => inv.state = .failed) places) (Alike (ε := ε))
      (settleTags groups results batch) (settleTags groups results extended) := by
  refine (Lockstep.forM (fun _ => Ledger.count_alike _ _) _).bind_eq fun _ => .pure ?_
  exact (put.advanceEach (fun _ own => own.1) _).imp fun _ own => own.2

/-- What has failed already is neither settled nor counted. -/
theorem settlePages_alike (results : Fanout.Results Uuid)
    (put : Interspersed (fun inv => inv.state = .failed) places batch extended) :
    Lockstep (Interspersed (fun inv => inv.state = .failed) places) (Alike (ε := ε))
      (settlePages results batch) (settlePages results extended) := by
  rw [settlePages, settlePages]
  induction put with
  | nil => exact .pure .nil
  | put inv failed _ ih =>
      have terminal : inv.isTerminal = true := by rw [Invalidation.isTerminal, failed]; rfl
      intro l l' alike
      obtain ⟨others, left⟩ := ih l l' alike
      rw [mapM_cons_apply, terminal]
      exact ⟨.put inv failed others, left⟩
  | keep inv _ ih =>
      rw [List.mapM_cons, List.mapM_cons]
      refine Lockstep.bind_eq ?_ fun settled =>
        ih.bind fun _ _ others => .pure (.keep settled others)
      split
      · exact .pure rfl
      · exact (Ledger.count_alike _ _).bind_eq fun _ => .pure rfl

section By
variable {send : Sender ε} (s : Surroundings ε)

theorem banGroupsBy_alike (impartial : Impartial send.tags) (salt : String)
    (groups : List (List Invalidation))
    (put : Interspersed (fun inv => isSendable inv = false ∧ inv.state = .failed) places batch
      extended) :
    Lockstep (LeftAlike places) Alike (banGroupsBy send s salt groups batch)
      (banGroupsBy send s salt groups extended) := by
  refine (Ledger.ask_alike _).bind_eq fun addresses => ?_
  refine (Ledger.ask_alike _).bind_eq fun site => ?_
  refine (impartial.alike _).bind_eq fun sent => ?_
  cases sent with
  | error panic => exact .pure ⟨put.imp fun _ own => own.2, rfl⟩
  | ok results =>
      exact (settleTags_alike groups results put).bind fun _ _ left => .pure ⟨left, rfl⟩

theorem purgeTagsBy_alike (impartial : Impartial send.tags) (size : Nat)
    (put : Interspersed (fun inv => isSendable inv = false ∧ inv.isTerminal = false) places batch
      extended) :
    Lockstep (LeftAlike places) Alike (purgeTagsBy send s size batch)
      (purgeTagsBy send s size extended) := by
  refine (admitTags_alike put).bind fun admitted admitted' put => ?_
  refine (Ledger.ask_alike _).bind_eq fun salt => ?_
  rw [put.filter_eq fun _ own => own.1]
  dsimp only
  split
  · exact .pure ⟨put.imp fun _ own => own.2, rfl⟩
  · exact banGroupsBy_alike s impartial salt _ put

theorem purgePagesBy_alike (impartial : Impartial send.pages) (m : PageMethod)
    (put : Interspersed (fun inv => isRoutable inv.expression = false ∧ inv.isTerminal = false)
      places batch extended) :
    Lockstep (LeftAlike places) Alike (purgePagesBy send s m batch)
      (purgePagesBy send s m extended) := by
  have admitted : Interspersed (fun inv => isRoutable inv.expression = false ∧ inv.state = .failed)
      places (batch.map admitPage) (extended.map admitPage) := put.map fun inv own => by
    rw [admitPage_expression, admitPage_of_not_isRoutable own.1]
    exact ⟨own.1, State.advance_failed own.2⟩
  have failed := admitted.imp fun _ own => own.2
  refine (Ledger.ask_alike _).bind_eq fun addresses => ?_
  refine (Ledger.ask_alike _).bind_eq fun site => ?_
  dsimp only
  rw [admitted.filter_eq (p := fun inv => isRoutable inv.expression) fun _ own => own.1]
  refine (impartial.alike _).bind_eq fun sent => ?_
  cases sent with
  | error panic => exact .pure ⟨failed, rfl⟩
  | ok results => exact (settlePages_alike results failed).bind fun _ _ left => .pure ⟨left, rfl⟩

/-- Of a kind, not settled, and such that nothing can be sent for it. -/
structure Malformed (kind : Kind) (inv : Invalidation) : Prop where
  kind : inv.kind = kind
  unfit : isAdmissible inv = false
  unsettled : inv.isTerminal = false

theorem handleBy_alike (impartial : send.Impartial) (size : Nat) {kind : Kind}
    (put : Interspersed (Malformed kind) places batch extended) (some : kind ≠ .everything) :
    Lockstep (LeftAlike places) Alike (handleBy send s size kind batch)
      (handleBy send s size kind extended) := by
  cases kind with
  | tag =>
      refine purgeTagsBy_alike s impartial.1 size (put.imp fun inv own => ⟨?_, own.unsettled⟩)
      rw [← own.unfit, isAdmissible, own.kind]
  | url =>
      refine purgePagesBy_alike s impartial.2 exact (put.imp fun inv own => ⟨?_, own.unsettled⟩)
      rw [← own.unfit, isAdmissible, own.kind]
  | wildcardUrl =>
      refine purgePagesBy_alike s impartial.2 pattern (put.imp fun inv own => ⟨?_, own.unsettled⟩)
      rw [← own.unfit, isAdmissible, own.kind]
  | everything => exact absurd rfl some

/-- A handler sends nothing for no invalidations. -/
theorem handleBy_nil_idle (impartial : send.Impartial) (size : Nat) {kind : Kind}
    (some : kind ≠ .everything) (l : Ledger ε) : Idle l (handleBy send s size kind [] l).2 := by
  have pages (m : PageMethod) : Idle l (purgePagesBy send s m [] l).2 := by
    have asked := (ask_idle s.edgeAddresses l).trans (ask_idle s.siteIdentifier _)
    have sent := asked.trans (impartial.2.idle _)
    simp only [purgePagesBy, bind_apply, List.map_nil, List.filter_nil, pageRequests,
      List.flatMap_nil]
    generalize send.pages [] _ = run at sent ⊢
    cases run.1 with
    | error panic => exact sent
    | ok results => exact sent
  cases kind with
  | tag =>
      simp only [handleBy, purgeTagsBy, admitTags, List.mapM_nil, bind_apply, pure_apply,
        List.filter_nil, groupsOf, List.isEmpty_nil, if_true]
      exact ask_idle _ l
  | url => exact pages exact
  | wildcardUrl => exact pages pattern
  | everything => exact absurd rfl some

end By

/-- A purger does the same for a batch whether or not other invalidations are put into it at some
places: it makes the same requests, leaves the batch in the same states, and fails the others. If
there is a batch at all then nothing else but the count of failures shows them. -/
structure RejectsAlone (p : Purger (Ledger ε)) (l : Ledger ε) (places : List Bool)
    (batch extended : List Invalidation) : Prop where
  requests : (p.dispatch extended l).2.requests = (p.dispatch batch l).2.requests
  requestsSent :
    (p.dispatch extended l).2.tally.requestsSent = (p.dispatch batch l).2.tally.requestsSent
  requestsFailed :
    (p.dispatch extended l).2.tally.requestsFailed = (p.dispatch batch l).2.tally.requestsFailed
  left : Interspersed (fun inv => inv.state = .failed) places (p.dispatch batch l).1.1
    (p.dispatch extended l).1.1
  ending : batch ≠ [] → (p.dispatch extended l).1.2 = (p.dispatch batch l).1.2
  alike : batch ≠ [] → (p.dispatch batch l).2.Alike (p.dispatch extended l).2

section Dispatch
variable (send : Sender ε) (s : Surroundings ε) (size : Nat) {kind : Kind}

theorem call_purgerBy (kind : Kind) (batch : List Invalidation) (l : Ledger ε) :
    (purgerBy send s size).call kind batch l =
      Ledger.within kind (handleBy send s size kind batch) l := by
  have moved := (handleBy_handled send s size kind batch (Ledger.note (.enter kind) l).2).moved
  rw [Purger.call_eq rfl]
  exact congrArg (fun after => ((after, _), _)) (Invalidation.advanceEach_of_moved moved)

theorem dispatch_purgerBy {batch : List Invalidation} (own : ∀ inv ∈ batch, inv.kind = kind)
    (nonempty : batch ≠ []) (l : Ledger ε) : (purgerBy send s size).dispatch batch l =
      Ledger.within kind (handleBy send s size kind batch) l := by
  rw [Purger.dispatch_own own (purgerBy_handles send s size).settles kind.mem_all nonempty,
    call_purgerBy]

theorem Sender.Impartial.rejectsAlone {send : Sender ε} (impartial : send.Impartial)
    (some : kind ≠ .everything) (own : ∀ inv ∈ batch, inv.kind = kind)
    (put : Interspersed (Malformed kind) places batch extended) (l : Ledger ε) :
    RejectsAlone (purgerBy send s size) l places batch extended := by
  have own' := put.forall_mem own fun _ malformed => malformed.kind
  obtain ⟨⟨left, ending⟩, alike⟩ :=
    Ledger.within_alike kind (handleBy_alike s impartial size put some) l l (.refl l)
  by_cases given : batch = []
  · subst given
    have none : (Ledger.within kind (handleBy send s size kind []) l).1.1 = [] :=
      List.forall₂_nil_left_iff.mp (handleBy_handled send s size kind [] _).moved
    have idle := within_idle kind (handleBy_nil_idle s impartial size some) l
    rw [none] at left
    by_cases alone : extended = []
    · subst alone
      cases put
      refine ⟨rfl, rfl, rfl, ?_, fun given => absurd rfl given, fun given => absurd rfl given⟩
      rw [Purger.dispatch_nil]
      exact .nil
    · rw [← dispatch_purgerBy send s size own' alone] at left alike
      refine ⟨alike.requests.trans idle.requests, alike.requestsSent.trans idle.requestsSent,
        alike.requestsFailed.trans idle.requestsFailed, left, fun given => absurd rfl given,
        fun given => absurd rfl given⟩
  · have given' : extended ≠ [] := by
      rintro rfl
      cases put
      exact given rfl
    rw [← dispatch_purgerBy send s size own given] at left ending alike
    rw [← dispatch_purgerBy send s size own' given'] at left ending alike
    exact ⟨alike.requests, alike.requestsSent, alike.requestsFailed, left, fun _ => ending.symm,
      fun _ => alike⟩

/-- Tags that may not travel in a header, or pages whose URL names no host, put into a batch of
their kind at any places: they fail, and the rest is requested and settled as without them. So it is
in whatever order the purger's sender goes, if the sender is impartial. -/
theorem dispatch_rejects_alone (pace : Pace) (l : Ledger ε) (some : kind ≠ .everything)
    (own : ∀ inv ∈ batch, inv.kind = kind)
    (put : Interspersed (Malformed kind) places batch extended) :
    RejectsAlone (purger s pace) l places batch extended ∧
      ∀ send : Sender ε, send.Impartial →
        RejectsAlone (purgerBy send s pace.groupSize) l places batch extended := by
  refine ⟨?_, fun send impartial => impartial.rejectsAlone s pace.groupSize some own put l⟩
  rw [← purgerBy_fanOut]
  exact (Sender.fanOut_impartial s pace.concurrency).rejectsAlone s pace.groupSize some own put l

/-- A control character between two tags that travel together, also if sending goes backwards. -/
theorem dispatch_rejects_alone_control :
    let a := Invalidation.ofId 0 .tag "a"
    let b := Invalidation.ofId 1 .tag "b\x01"
    let c := Invalidation.ofId 2 .tag "c"
    let fleet : Rehearsal := ⟨["10.0.0.1"], "site-a", none, 0, ⟨[], [], true⟩⟩
    let s := Rehearsal.surroundings
    let backwards : Sender Rehearsal :=
      ⟨fun requests => fanOut s 6 Nat.repr requests.reverse,
        fun requests => fanOut s 6 Uuid.toText requests.reverse⟩
    ∀ p ∈ [purger s ⟨15, 6⟩, purgerBy backwards s 15], ∃ first second third,
      (p.dispatch [a, c] (.start fleet)).1.1 = [first, third] ∧
      (p.dispatch [a, b, c] (.start fleet)).1.1 = [first, second, third] ∧
      second.state = .failed ∧ (p.dispatch [a, b, c] (.start fleet)).2.requests =
        (p.dispatch [a, c] (.start fleet)).2.requests := by
  intro a b c fleet s backwards p among
  have put : Interspersed (Malformed .tag) [false, true, false] [a, c] [a, b, c] :=
    .keep a (.put b ⟨rfl, by decide, rfl⟩ (.keep c .nil))
  have impartial : backwards.Impartial :=
    ⟨⟨fun _ => fanOut_alike s 6 _ _, (fanOut_impartial s 6 _).idle⟩,
      ⟨fun _ => fanOut_alike s 6 _ _, (fanOut_impartial s 6 _).idle⟩⟩
  obtain ⟨own, others⟩ :=
    dispatch_rejects_alone s ⟨15, 6⟩ (.start fleet) (by decide) (by decide) put
  have alone : RejectsAlone p (.start fleet) [false, true, false] [a, c] [a, b, c] := by
    rcases List.mem_pair.mp among with rfl | rfl
    · exact own
    · exact others backwards impartial
  have left := alone.left
  generalize (p.dispatch [a, c] (.start fleet)).1.1 = kept at left ⊢
  generalize (p.dispatch [a, b, c] (.start fleet)).1.1 = all at left ⊢
  rcases left with _ | _ | ⟨first, _ | ⟨second, failed, _ | _ | ⟨third, _ | _⟩⟩⟩
  exact ⟨first, second, third, rfl, rfl, failed, alone.requests⟩

end Dispatch

end Fleet
end CachePurge
