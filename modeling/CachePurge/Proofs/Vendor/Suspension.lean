import CachePurge.Proofs.Rehearsal
import CachePurge.Proofs.Vendor.Watch

/-!
The suspension of a vendor's purger over whole runs of its calls, each of which comes to visits of
its handlers: from a systemic fault until the fault is over nothing is sent and all that is
submitted fails, and at all other times the purger works as if no fault had ever been.
-/

namespace CachePurge.Vendor

variable {ε : Type}

/-- A call of the purger: what was submitted, the visits to handlers that it led to, and what came
of it. -/
structure Call (ε : Type) where
  submitted : List Invalidation
  visits : List (Purger.Visit (Forwarder ε))
  final : List Invalidation
  ending : Ending

namespace Call
variable (s : Surroundings ε) (f : Forwarder ε)

/-- The call of one handler with a batch, whatever the kinds in it are. -/
def ofHandler (kind : Kind) (batch : List Invalidation) : Call ε where
  submitted := batch
  visits := [⟨kind, batch, f⟩]
  final := ((purger s).call kind batch f).1.1
  ending := ((purger s).call kind batch f).1.2

def ofDispatch (invs : List Invalidation) : Call ε where
  submitted := invs
  visits := ((purger s).recording.dispatch invs (f, [])).2.2
  final := ((purger s).dispatch invs f).1.1
  ending := ((purger s).dispatch invs f).1.2

end Call

/-- Some calls were made, one after the other, and time passed between them. -/
inductive Run (s : Surroundings ε) (f : Forwarder ε) : List (Call ε) → Forwarder ε → Prop where
  | start : Run s f [] f
  | wait {calls : List (Call ε)} {f' : Forwarder ε} (run : Run s f calls f') (e : ε)
      (later : s.clock f'.outside ≤ s.clock e) : Run s f calls (f'.within e)
  | handler {calls : List (Call ε)} {f' : Forwarder ε} (run : Run s f calls f') (kind : Kind)
      (supported : kind ∈ (purger s).supported) (batch : List Invalidation) :
      Run s f (calls ++ [.ofHandler s f' kind batch]) ((purger s).call kind batch f').2
  | dispatch {calls : List (Call ε)} {f' : Forwarder ε} (run : Run s f calls f')
      (invs : List Invalidation) (supported : ∀ inv ∈ invs, inv.kind ∈ (purger s).supported) :
      Run s f (calls ++ [.ofDispatch s f' invs]) ((purger s).dispatch invs f').2

/-- A call ended well, and each of its invalidations is, in its place, as a visit left it, failed if
that left it unsettled. -/
inductive Call.Answered (s : Surroundings ε) : Call ε → Prop where
  | handler (visit : Purger.Visit (Forwarder ε)) :
      Answered s ⟨visit.batch, [visit], visit.left (purger s), .done⟩
  | dispatch {invs final : List Invalidation} {visits : List (Purger.Visit (Forwarder ε))}
      (length : final.length = invs.length)
      (settled : ∀ (i : Nat) (inv : Invalidation), invs[i]? = some inv →
        ∃ visit ∈ visits, visit.kind = inv.kind ∧ visit.batch = Invalidation.ofKind inv.kind invs ∧
          ∃ left, (visit.left (purger s))[Invalidation.placeOfKind inv.kind invs i]? = some left ∧
            final[i]? = some left.fail) :
      Answered s ⟨invs, visits, final, .done⟩

theorem fail_fail (inv : Invalidation) : inv.fail.fail = inv.fail := by
  obtain ⟨id, kind, expression, state⟩ := inv
  cases state <;> rfl

/-- What all visits of a call refuse has failed. -/
theorem Call.Answered.refused {s : Surroundings ε} {call : Call ε} (answered : call.Answered s)
    (refused : ∀ visit ∈ call.visits,
      visit.left (purger s) = visit.batch.map Invalidation.fail) :
    call.final = call.submitted.map Invalidation.fail := by
  cases answered with
  | handler visit => exact refused visit (List.mem_singleton_self visit)
  | @dispatch invs final visits length settled =>
      apply List.ext_getElem?
      intro i
      rw [List.getElem?_map]
      cases found : invs[i]? with
      | none =>
          rw [List.getElem?_eq_none_iff, ← length] at found
          exact List.getElem?_eq_none_iff.mpr found
      | some inv =>
          obtain ⟨visit, among, own, batch, left, at_place, final⟩ := settled i inv found
          rw [refused visit among, batch, List.getElem?_map,
            Invalidation.getElem?_ofKind found, Option.map_some] at at_place
          rw [final, ← Option.some.inj at_place, fail_fail]
          rfl

section Calls
variable {s : Surroundings ε} {f f' : Forwarder ε} {visits : List (Purger.Visit (Forwarder ε))}

/-- Visits that follow upon another lead on from each other. -/
theorem Visited.chain (run : Visited s f visits f') {more : List (Purger.Visit (Forwarder ε))}
    {f'' : Forwarder ε} (supported : ∀ visit ∈ more, visit.kind ∈ (purger s).supported)
    (chained : more.map (·.before) ++ [f''] = f' :: more.map (·.after (purger s))) :
    Visited s f (visits ++ more) f'' := by
  induction more generalizing visits f' with
  | nil =>
      obtain rfl := (List.cons.inj chained).1
      rwa [List.append_nil]
  | cons visit rest ih =>
      obtain ⟨rfl, later⟩ := List.cons.inj chained
      obtain ⟨own, others⟩ := List.forall_mem_cons.mp supported
      rw [List.append_cons]
      exact ih (run.visit visit own) others later

/-- What the visits of a dispatch were called with. -/
theorem batch_of_routed {p : Purger (Forwarder ε)} {kinds : List Kind} {first : Option Fault}
    {invs : List Invalidation} {outcome : (List Invalidation × Ending) × Forwarder ε}
    (routed : Purger.Routed p kinds first invs f visits outcome)
    {visit : Purger.Visit (Forwarder ε)} (among : visit ∈ visits) :
    visit.batch = Invalidation.ofKind visit.kind invs ∧ ∃ inv ∈ invs, inv.kind = visit.kind := by
  have called : (visit.kind, visit.batch) ∈
      visits.map fun visit => (visit.kind, visit.batch) := List.mem_map_of_mem among
  rw [routed.calls] at called
  obtain ⟨kind, inside, same⟩ := List.mem_map.mp called
  obtain ⟨own, batch⟩ := Prod.mk.inj same
  subst own
  have nonempty : Invalidation.ofKind visit.kind invs ≠ [] := by
    simpa using (List.mem_filter.mp inside).2
  obtain ⟨inv, within⟩ := List.exists_mem_of_ne_nil _ nonempty
  obtain ⟨submitted, own⟩ := List.mem_filter.mp within
  exact ⟨batch.symm, inv, submitted, of_decide_eq_true own⟩

theorem dispatch_visited {v : Backend} (chosen : f.backend = some v) (run : Visited s f visits f')
    {invs : List Invalidation} (supported : ∀ inv ∈ invs, inv.kind ∈ (purger s).supported) :
    Visited s f (visits ++ (Call.ofDispatch s f' invs).visits) ((purger s).dispatch invs f').2 ∧
      (Call.ofDispatch s f' invs).Answered s := by
  have returns : ∀ inv ∈ invs, (purger s).Returns inv.kind := fun inv among =>
    purger_returns s (supported inv among)
  obtain ⟨more, routed, recorded⟩ :=
    Purger.dispatchKinds_routed (purger s) Kind.nodup_all returns none f'
  have supported' : ∀ visit ∈ more, visit.kind ∈ (purger s).supported := by
    intro visit among
    obtain ⟨-, inv, submitted, own⟩ := batch_of_routed routed among
    exact own ▸ supported inv submitted
  have reached := run.chain supported' routed.chained
  have done : ((purger s).dispatchKinds Kind.all none invs f').1.2 = .done := by
    refine routed.ending.trans (Purger.endingOf_of_done fun visit among => ?_)
    exact (reached.chosen chosen).2 visit (List.mem_append_right visits among)
  have call : Call.ofDispatch s f' invs =
      ⟨invs, more, ((purger s).dispatchKinds Kind.all none invs f').1.1, .done⟩ := by
    rw [Call.ofDispatch, Purger.dispatch_of_supported _ supported,
      Purger.dispatch_of_supported (purger s).recording supported, recorded, done]
    rfl
  rw [call, Purger.dispatch_of_supported _ supported]
  refine ⟨reached, .dispatch routed.length fun i inv found => ?_⟩
  obtain ⟨visit, among, own, left, at_place, final⟩ := routed.settled i inv found inv.kind.mem_all
  have batch := own ▸ (batch_of_routed routed among).1
  have placed : visit.batch[Invalidation.placeOfKind inv.kind invs i]? = some inv := by
    rw [batch]
    exact Invalidation.getElem?_ofKind found
  obtain ⟨left', moved, same⟩ :=
    Invalidation.still_at (Invalidation.advanceEach_still _ visit.batch _) placed
  obtain rfl := Option.some.inj (moved.symm.trans at_place)
  exact ⟨visit, among, own, batch, left', at_place, final.trans (congrArg some same.fail_eq.symm)⟩

theorem Run.visited {v : Backend} (chosen : f.backend = some v) {calls : List (Call ε)}
    (run : Run s f calls f') :
    Visited s f (calls.flatMap (·.visits)) f' ∧ ∀ call ∈ calls, call.Answered s := by
  induction run with
  | start => exact ⟨.start, fun _ among => absurd among List.not_mem_nil⟩
  | wait _ e later ih => exact ⟨ih.1.wait e later, ih.2⟩
  | @handler calls f' _ kind supported batch ih =>
      have reached := ih.1.visit ⟨kind, batch, f'⟩ supported
      have done := (reached.chosen chosen).2 _ (List.mem_append_right _ List.mem_cons_self)
      have call : Call.ofHandler s f' kind batch =
          ⟨batch, [⟨kind, batch, f'⟩], Purger.Visit.left (purger s) ⟨kind, batch, f'⟩, .done⟩ :=
        congrArg (Call.mk batch [⟨kind, batch, f'⟩] _) done
      rw [List.flatMap_append, List.flatMap_singleton]
      refine ⟨reached, List.forall_mem_append.mpr ⟨ih.2, List.forall_mem_singleton.mpr ?_⟩⟩
      exact call ▸ .handler ⟨kind, batch, f'⟩
  | @dispatch calls f' _ invs supported ih =>
      obtain ⟨reached, answered⟩ := dispatch_visited chosen ih.1 supported
      rw [List.flatMap_append, List.flatMap_singleton]
      exact ⟨reached, List.forall_mem_append.mpr ⟨ih.2, List.forall_mem_singleton.mpr answered⟩⟩

end Calls

/-- A response that is a fault of the service suspends the purger for as long as the fault says,
from when it was there, and nothing else does. For every run, from a gate that is open, there are
the exchanges of each visit such that: a visit is refused with the whole of its batch if an exchange
before it has the service suspended then, and goes as with a gate that was never closed if none has;
what a fault interrupted fails; no exchange begins while an earlier one has the service suspended;
and from now on, as long as instants can be told, the gate tells the fault while it lasts and
nothing at any other time. All calls end well, with every invalidation as its visit left it or
failed. -/
theorem suspends_until_over {s : Surroundings ε} (forward : s.RunsForward) {v : Backend}
    {f f' : Forwarder ε} (chosen : f.backend = some v)
    (isOpen : f.gate.health (s.clock f.outside) = none) {calls : List (Call ε)}
    (run : Run s f calls f') (told : s.clock f'.outside < Gate.lastInstant) :
    (∀ call ∈ calls, call.Answered s ∧
      ((∀ visit ∈ call.visits, visit.left (purger s) = visit.batch.map Invalidation.fail) →
        call.final = call.submitted.map Invalidation.fail)) ∧
    ∃ made : Record ε, made.map (·.1) = calls.flatMap (·.visits) ∧
      (∀ (before after : Record ε) (visit : Purger.Visit (Forwarder ε)) (xs : List Exchange),
        made = before ++ (visit, xs) :: after → Heeds v s before.exchanges visit xs) ∧
      (made.exchanges.Pairwise fun x y =>
        ∀ message ends, x.Suspends message ends → ends ≤ y.sentAt) ∧
      ∀ now, s.clock f'.outside ≤ now → now < Gate.lastInstant → ∀ message,
        f'.gate.health now = some message ↔ SuspendedAt made.exchanges now message := by
  obtain ⟨visited, answered⟩ := run.visited chosen
  obtain ⟨made, visits, watch⟩ := visited.watch forward chosen isOpen told
  refine ⟨fun call among => ?_, made, visits, watch.heeds, watch.spaced, watch.tells⟩
  exact ⟨answered call among, (answered call among).refused⟩

/-- The answer to a request for what the service does not know. -/
theorem suspends_of_notFound {x : Exchange}
    (replied : x.body? = some (utf8 "\x7b\"msg\":\"Record not found\"\x7d")) :
    x.Suspends "fastly: Record not found"
      (x.receivedAt + Gate.nanosOfSeconds (12 * 60 * 60)) := by
  have text : Fastly.textOf (utf8 "\x7b\"msg\":\"Record not found\"\x7d") =
      "\x7b\"msg\":\"Record not found\"\x7d" := by
    decide +kernel
  have parsed : Json.parse "\x7b\"msg\":\"Record not found\"\x7d" =
      .ok (.object [("msg", .string "Record not found")]) := by
    cbv
  have other : ¬Fastly.credentialsFault.toList <:+: "Record not found".toList := by
    rw [← Search.occursIn_iff]
    decide
  obtain ⟨status, result⟩ := Exchange.body?_eq_some.mp replied
  exact ⟨status, _, _, "Record not found", result, text ▸ parsed, rfl, rfl,
    .inr ⟨other, List.infix_refl _, rfl⟩⟩

/-- An hour after the service said that it knows no such record it is still suspended. -/
theorem suspends_until_over_hour :
    let s := Rehearsal.surroundings
    let api : Url :=
      ⟨"https", some ⟨"", none, some (.domain "api.test"), none⟩, .rooted [""], none, none⟩
    let answer : Http.Reply := .response 404 (utf8 "\x7b\"msg\":\"Record not found\"\x7d")
    let outside : Rehearsal :=
      ⟨[], "site-a", none, Rehearsal.opening, [⟨none, none, none, none, answer⟩], [], true⟩
    let f := { Forwarder.start outside with backend := some ⟨api, "service", "token", "site-a"⟩ }
    let hour := Rehearsal.opening + Gate.nanosOfSeconds 3600
    ∃ (f' : Forwarder Rehearsal) (calls : List (Call Rehearsal)) (made : Record Rehearsal),
      Run s f calls f' ∧ s.clock f'.outside = hour ∧ made.map (·.1) = calls.flatMap (·.visits) ∧
        (∀ call ∈ calls, call.Answered s) ∧
        f'.gate.health hour = some "fastly: Record not found" ∧
        SuspendedAt made.exchanges hour "fastly: Record not found" := by
  intro s api answer outside f hour
  let v : Backend := ⟨api, "service", "token", "site-a"⟩
  let site := Invalidation.ofId 1 .everything ""
  have exchanged : (Fastly.tried s v.siteRequest outside).map (fun x => (x.body?, x.receivedAt)) =
      [(some (utf8 "\x7b\"msg\":\"Record not found\"\x7d"), Rehearsal.opening)] := by
    decide +kernel
  obtain ⟨x, tried, own⟩ := List.map_eq_singleton_iff.mp exchanged
  obtain ⟨replied, received⟩ := Prod.mk.inj own
  have suspends := suspends_of_notFound replied
  rw [received] at suspends
  have supported : Kind.everything ∈ (purger s).supported := by decide
  have chosen : f.backend = some v := rfl
  have closed : ((purger s).handle .everything [site] f).2.gate =
      .upTo ⟨"fastly: Record not found", Rehearsal.opening + Gate.nanosOfSeconds (12 * 60 * 60)⟩ :=
    gate_of_siteFault s chosen rfl site [] (tried ▸ List.mem_singleton_self x)
      (Exchange.closure?_eq_some.mpr suspends)
  have stood : ((purger s).handle .everything [site] f).2.outside.now = Rehearsal.opening := by
    obtain ⟨xs, treated⟩ := visit_treated s ⟨.everything, [site], f⟩ supported chosen
    exact Rehearsal.now_of_trades treated.trades
  have run := (Run.start : Run s f [] f).handler .everything supported [site]
  rw [Purger.call_after] at run
  have called : ∃ f', Run s f ([] ++ [.ofHandler s f .everything [site]]) f' ∧
      f'.gate = .upTo ⟨"fastly: Record not found",
        Rehearsal.opening + Gate.nanosOfSeconds (12 * 60 * 60)⟩ ∧
      f'.outside.now = Rehearsal.opening :=
    ⟨((purger s).handle .everything [site] f).2, run, closed, stood⟩
  clear run closed stood
  obtain ⟨f', run, closed, stood⟩ := called
  have later : s.clock f'.outside ≤ s.clock (outside.moved hour) := by
    have opening : s.clock f'.outside = Rehearsal.opening := stood
    rw [opening, Rehearsal.clock_moved]
    exact Nat.le_add_right _ _
  have waited := run.wait (outside.moved hour) later
  have clock : s.clock (f'.within (outside.moved hour)).outside = hour := by
    rw [Forwarder.outside_within, Rehearsal.clock_moved]
  have told : s.clock (f'.within (outside.moved hour)).outside < Gate.lastInstant := by
    rw [clock]
    decide
  have health : (f'.within (outside.moved hour)).gate.health hour =
      some "fastly: Record not found" := by
    have within : hour < min (Rehearsal.opening + Gate.nanosOfSeconds (12 * 60 * 60))
      Gate.lastInstant := by decide
    exact health_eq_some.mpr ⟨_, congrArg Gate.closure closed, within⟩
  obtain ⟨answered, made, visits, -, -, tells⟩ :=
    suspends_until_over Rehearsal.runsForward chosen rfl waited told
  refine ⟨_, _, made, waited, clock, visits, fun call among => (answered call among).1, health, ?_⟩
  rw [clock] at tells
  exact (tells hour (Nat.le_refl _) (by decide) _).mp health

end CachePurge.Vendor
