import CachePurge.Proofs.Rehearsal
import CachePurge.Proofs.Vendor.Outcome
import CachePurge.Proofs.Vendor.Settled
import CachePurge.Proofs.Vendor.Visit
import Mathlib.Data.List.ReduceOption

/-!
How a vendor purges a batch of pages. They are purged one after the other, each by a request of its
own and for better or worse, up to the first whose answer is a fault of the service. That one and
those after it fail, and what was settled before it stays.
-/

namespace CachePurge.Vendor

variable {ε : Type}

/-- The request by which a page is purged, if its expression is a URL and the token may stand in a
header. -/
def purge? (v : Backend) (inv : Invalidation) : Option Http.Request :=
  match Url.parse inv.expression with
  | .error _ => none
  | .ok url =>
    if Header.isValue v.token then
      some ⟨"PURGE", url, [("fastly-key", v.token), ("accept", "application/json")]⟩
    else none

theorem toOption_pageRequest (v : Backend) (inv : Invalidation) :
    (v.pageRequest inv.expression).toOption = purge? v inv := by
  rw [Fastly.pageRequest, purge?]
  cases Url.parse inv.expression with
  | error e => rfl
  | ok url =>
      simp only [Fastly.request]
      split <;> rfl

/-- Whether the purge of a page was acknowledged, if it was sent at all. -/
def acknowledged (answer : Option Exchange) : Bool := answer.any fun x => x.Acknowledges

theorem acknowledged_iff {answer : Option Exchange} :
    acknowledged answer = true ↔ ∃ x, answer = some x ∧ x.Acknowledges := by
  cases answer <;> simp [acknowledged]

theorem purge?_eq_some {v : Backend} {inv : Invalidation} {request : Http.Request}
    (built : purge? v inv = some request) :
    (∃ url, Url.parse inv.expression = .ok url) ∧ Header.isValue v.token = true := by
  rw [purge?] at built
  split at built
  · cases built
  · next url parsed =>
      split at built
      · next token => exact ⟨⟨url, parsed⟩, token⟩
      · cases built

/-- Pages were purged one after the other up to a place: these are the answers to them, with none
where no request could be built. -/
structure Purged (v : Backend) (s : Surroundings ε) (batch : List Invalidation)
    (g : GatedLedger ε) (run : (List Invalidation × Option Fault) × GatedLedger ε) (k : Nat)
    (answers : List (Option Exchange)) : Prop where
  within : k ≤ batch.length
  asked : answers.map (Option.map (·.request)) = (batch.take (k + 1)).map (purge? v)
  trades : s.Trades g.ledger.outside answers.reduceOption run.2.ledger.outside
  listed : run.2.ledger.requests = g.ledger.requests ++ answers.reduceOption.map (·.request)
  calm : ∀ i < k, ∀ x, answers[i]? = some (some x) → x.closure? = none
  fault : k < batch.length → ∃ x, answers[k]? = some (some x) ∧ x.closure? ≠ none
  done : run.1.2 = none → k = batch.length
  left : ∀ i : Nat, run.1.1[i]? = (batch[i]?).map fun inv =>
    if i < k then inv.settle (acknowledged answers[i]?.join) else inv

section Step
variable {v : Backend} {s : Surroundings ε} {inv : Invalidation} {rest : List Invalidation}
  {g g' : GatedLedger ε} {run : (List Invalidation × Option Fault) × GatedLedger ε} {k : Nat}
  {answers : List (Option Exchange)} {answer : Option Exchange}

theorem Purged.stop (v : Backend) (s : Surroundings ε) (g : GatedLedger ε) :
    Purged v s [] g (([], none), g) 0 [] where
  within := Nat.le_refl 0
  asked := rfl
  trades := .rest _
  listed := (List.append_nil _).symm
  calm _ inside := absurd inside (Nat.not_lt_zero _)
  fault inside := absurd inside (Nat.not_lt_zero _)
  done _ := rfl
  left _ := rfl

/-- A page whose answer is no fault of the service is settled by it, and the others follow. -/
theorem Purged.next (later : Purged v s rest g' run k answers)
    (own : answer.map (·.request) = purge? v inv)
    (trades : s.Trades g.ledger.outside answer.toList g'.ledger.outside)
    (listed : g'.ledger.requests = g.ledger.requests ++ answer.toList.map (·.request))
    (calm : ∀ x, answer = some x → x.closure? = none) :
    Purged v s (inv :: rest) g ((inv.settle (acknowledged answer) :: run.1.1, run.1.2), run.2)
      (k + 1) (answer :: answers) := by
  have first : (answer :: answers).reduceOption = answer.toList ++ answers.reduceOption := by
    cases answer <;> rfl
  refine ⟨Nat.succ_le_succ later.within, ?_, ?_, ?_, fun i inside x found => ?_,
    fun inside => later.fault (Nat.lt_of_succ_lt_succ inside), fun none => ?_, fun i => ?_⟩
  · rw [List.map_cons, own, later.asked, List.take_succ_cons, List.map_cons]
  · rw [first]
    exact trades.trans later.trades
  · rw [first, later.listed, listed, List.map_append, List.append_assoc]
  · cases i with
    | zero => exact calm x (Option.some.inj found)
    | succ i => exact later.calm i (Nat.lt_of_succ_lt_succ inside) x found
  · exact congrArg Nat.succ (later.done none)
  · cases i with
    | zero => rfl
    | succ i =>
        simp only [List.getElem?_cons_succ, later.left i, Nat.add_lt_add_iff_right]

/-- A fault of the service is the last answer, and leaves the page and all others open. -/
theorem Purged.fault_stop {x : Exchange} (own : some x.request = purge? v inv)
    (trades : s.Trades g.ledger.outside [x] g'.ledger.outside)
    (listed : g'.ledger.requests = g.ledger.requests ++ [x.request]) (closes : x.closure? ≠ none)
    (fault : Fault) : Purged v s (inv :: rest) g ((inv :: rest, some fault), g') 0 [some x] where
  within := Nat.zero_le _
  asked := congrArg (· :: []) own
  trades := trades
  listed := listed
  calm _ inside := absurd inside (Nat.not_lt_zero _)
  fault _ := ⟨x, rfl, closes⟩
  done := nofun
  left i := by simp only [Nat.not_lt_zero, if_false, Option.map_id_fun', id_eq]

end Step

/-- The exchange for a request, if that can be built. -/
def answer? (s : Surroundings ε) (request : Except Fault Http.Request) (e : ε) : Option Exchange :=
  request.toOption.map fun request => (s.trade request e).1

theorem tried_eq (s : Surroundings ε) (request : Except Fault Http.Request) (e : ε) :
    Fastly.tried s request e = (answer? s request e).toList := by
  cases request <;> rfl

theorem request_of_answer? (s : Surroundings ε) (request : Except Fault Http.Request) (e : ε) :
    (answer? s request e).map (·.request) = request.toOption := by
  cases request with
  | error fault => rfl
  | ok request => exact congrArg some (Surroundings.trade_fields s request e).1

/-- Unless it is a fault of the service, a request comes to what its answer says. -/
theorem saysOk_exchange? (s : Surroundings ε) (request : Except Fault Http.Request)
    (g : GatedLedger ε)
    (calm : ∀ x, answer? s request g.ledger.outside = some x → x.closure? = none) :
    (Fastly.exchange? s request g).1.toOption.any Fastly.saysOk =
      acknowledged (answer? s request g.ledger.outside) := by
  rw [Fastly.exchange?_outcome]
  cases request with
  | error fault => rfl
  | ok request =>
      refine (congrArg (fun outcome => (Except.toOption outcome).any Fastly.saysOk)
        (Exchange.outcome_of_calm (calm _ rfl))).trans ?_
      exact Bool.eq_iff_iff.mpr (Exchange.saysOk_verdict.trans decide_eq_true_iff.symm)

theorem purgePagesFrom_purged (v : Backend) (s : Surroundings ε) (batch : List Invalidation)
    (g : GatedLedger ε) :
    ∃ k answers, Purged v s batch g (v.purgePagesFrom s batch g) k answers := by
  induction batch generalizing g with
  | nil => exact ⟨0, [], .stop v s g⟩
  | cons inv rest ih =>
      have own := (request_of_answer? s (v.pageRequest inv.expression) g.ledger.outside).trans
        (toOption_pageRequest v inv)
      have settled := saysOk_exchange? s (v.pageRequest inv.expression) g
      obtain ⟨-, trades, listed, unblames, blames⟩ :=
        Fastly.exchanged s (v.pageRequest_unblamed inv.expression) g
      rw [tried_eq] at trades listed unblames blames
      generalize answer? s (v.pageRequest inv.expression) g.ledger.outside = answer at *
      by_cases unblamed : Unblamed (Fastly.exchange? s (v.pageRequest inv.expression) g).1
      · have calm : ∀ x, answer = some x → x.closure? = none := by
          intro x found
          refine Option.eq_none_iff_forall_ne_some.mpr fun closure closes => ?_
          exact unblamed _ (blames x (Option.mem_toList.mpr found) closure closes).1
        obtain ⟨k, answers, later⟩ := ih (Fastly.exchange? s (v.pageRequest inv.expression) g).2
        rw [purgePagesFrom_unblamed v s rest unblamed, settled calm]
        exact ⟨k + 1, answer :: answers, later.next own trades listed calm⟩
      · obtain ⟨message, blamed⟩ := not_forall_not.mp unblamed
        have closes : ∃ x, answer = some x ∧ x.closure? ≠ none := by
          refine not_forall_not.mp fun calm => unblamed (unblames fun x among => ?_).1
          exact not_not.mp fun closes => calm x ⟨Option.mem_toList.mp among, closes⟩
        obtain ⟨x, rfl, closes⟩ := closes
        rw [purgePagesFrom_blamed v s rest blamed]
        exact ⟨0, [some x], .fault_stop own trades listed closes _⟩

section Run
variable {v : Backend} {s : Surroundings ε} {batch : List Invalidation} {g : GatedLedger ε}
  {run : (List Invalidation × Option Fault) × GatedLedger ε} {k : Nat}
  {answers : List (Option Exchange)} (purged : Purged v s batch g run k answers)
include purged

/-- What has been settled stays when the others fail. -/
theorem Purged.failed (i : Nat) :
    (if run.1.2 = none then run.1.1 else run.1.1.map Invalidation.fail)[i]? =
      (batch[i]?).map (Invalidation.settle (decide (i < k) && acknowledged answers[i]?.join)) := by
  have left := purged.left i
  by_cases none : run.1.2 = none
  · rw [if_pos none, left]
    cases found : batch[i]? with
    | none => rfl
    | some inv =>
        have inside : i < k := purged.done none ▸ (List.getElem?_eq_some_iff.mp found).1
        simp only [Option.map_some, inside, if_true, decide_true, Bool.true_and]
  · rw [if_neg none, List.getElem?_map, left, Option.map_map]
    refine Option.map_congr fun inv _ => ?_
    by_cases inside : i < k
    · simp only [Function.comp_apply, inside, if_true, decide_true, Bool.true_and]
      exact Invalidation.advance_of_isTerminal (inv.isTerminal_settle _) .failed
    · simp only [Function.comp_apply, inside, if_false, decide_false, Bool.false_and]
      rfl

theorem Purged.requests :
    run.2.ledger.requests = g.ledger.requests ++ (batch.take (k + 1)).filterMap (purge? v) := by
  rw [purged.listed, ← List.reduceOption_map, purged.asked, List.reduceOption, List.filterMap_map]
  rfl

end Run

theorem purgeable_of_asked {v : Backend} {batch : List Invalidation} {k i : Nat}
    {answers : List (Option Exchange)} {inv : Invalidation} {x : Exchange}
    (asked : answers.map (Option.map (·.request)) = (batch.take (k + 1)).map (purge? v))
    (found : batch[i]? = some inv) (answered : answers[i]? = some (some x)) :
    (∃ url, Url.parse inv.expression = .ok url) ∧ Header.isValue v.token = true := by
  have own := congrArg (·[i]?) asked
  simp only [List.getElem?_map, answered, Option.map_some] at own
  obtain ⟨inv', taken, built⟩ := Option.map_eq_some_iff.mp own.symm
  obtain rfl : inv' = inv := by
    rw [List.getElem?_take] at taken
    split at taken
    · exact Option.some.inj (taken.symm.trans found)
    · cases taken
  exact purge?_eq_some built

section Call
variable {v : Backend} (s : Surroundings ε) {f : Forwarder ε} (chosen : f.backend = some v)
  (isOpen : f.gate.health (s.clock f.outside) = none) {batch : List Invalidation}
  (unsettled : ∀ inv ∈ batch, inv.isTerminal = false)
include chosen isOpen unsettled

theorem call_url_purged :
    ∃ (g : GatedLedger ε) (run : (List Invalidation × Option Fault) × GatedLedger ε) (k : Nat)
      (answers : List (Option Exchange)),
      Purged v s (batch.map Invalidation.process) g run k answers ∧
      g.ledger.outside = (s.now f.outside).2 ∧ g.ledger.requests = f.requests ∧
      ((purger s).call .url batch f).2.outside = run.2.ledger.outside ∧
      ((purger s).call .url batch f).2.requests = run.2.ledger.requests ∧
      ((purger s).call .url batch f).1.2 = .done ∧
      ∀ i : Nat, ((purger s).call .url batch f).1.1[i]? = (batch[i]?).map
        (Invalidation.settle (decide (i < k) && acknowledged answers[i]?.join)) := by
  have found : operation? .url = some (Fastly.purgePages (ε := ε)) := rfl
  obtain ⟨called, -, outside, requests⟩ := call_passed found chosen isOpen
    (rfl : Fastly.purgePages v s (batch.map Invalidation.process) = _)
  obtain ⟨k, answers, purged⟩ := purgePagesFrom_purged v s (batch.map Invalidation.process)
    ((entered .url f).looked s)
  have left := purged.failed
  generalize v.purgePagesFrom s (batch.map Invalidation.process) ((entered .url f).looked s) = run
    at called outside requests purged left
  rw [called]
  refine ⟨_, run, k, answers, purged, rfl, entered_requests .url f, outside, requests, rfl,
    fun i => ?_⟩
  rw [left i, List.getElem?_map, Option.map_map]
  refine Option.map_congr fun inv found => ?_
  exact Invalidation.settle_process (unsettled inv (List.mem_of_getElem? found)) _

/-- A batch of pages that are not settled yet, given to the handler of a backend whose gate is open.
Up to some place the answers, if a request could be built at all, are no fault of the service, and
if there is a page at that place then the answer to it is one. To each page up to there one request
is given to the client, in the order of the pages, provided that its expression is a URL and the
token may stand in a header; later pages get none. A page before that place succeeds just if its
purge is acknowledged; all others fail, and the call reports no fault. -/
theorem pages_settle_up_to_fault :
    ∃ (k : Nat) (answers : List (Option Exchange)),
      let run := (purger s).call .url batch f
      k ≤ batch.length ∧
      answers.map (Option.map (·.request)) = (batch.take (k + 1)).map (purge? v) ∧
      s.Trades f.outside answers.reduceOption run.2.outside ∧
      run.2.requests = f.requests ++ (batch.take (k + 1)).filterMap (purge? v) ∧
      (∀ i < k, ∀ x, answers[i]? = some (some x) → ¬∃ message ends, x.Suspends message ends) ∧
      (k < batch.length →
        ∃ x, answers[k]? = some (some x) ∧ ∃ message ends, x.Suspends message ends) ∧
      run.1.2 = .done ∧ run.1.1.length = batch.length ∧
      ∀ (i : Nat) (inv : Invalidation), batch[i]? = some inv →
        ∃ state, run.1.1[i]? = some { inv with state } ∧ (state = .succeeded ∨ state = .failed) ∧
          (state = .succeeded ↔ i < k ∧ (∃ url, Url.parse inv.expression = .ok url) ∧
            Header.isValue v.token = true ∧ ∃ x, answers[i]? = some (some x) ∧ x.Acknowledges) := by
  obtain ⟨g, run, k, answers, purged, before, listed, outside, requests, done, left⟩ :=
    call_url_purged s chosen isOpen unsettled
  have same : (batch.map Invalidation.process).take (k + 1) =
      (batch.take (k + 1)).map Invalidation.process := List.map_take.symm
  have asked := purged.asked
  have asks := purged.requests
  rw [same, List.map_map] at asked
  rw [same, List.filterMap_map] at asks
  refine ⟨k, answers, List.length_map _ ▸ purged.within, asked, ?_, ?_, fun i inside x found => ?_,
    fun inside => ?_, done, ?_, fun i inv found => ?_⟩
  · rw [outside]
    exact .look (before ▸ purged.trades)
  · rw [requests, asks, listed]
    rfl
  · exact Exchange.closure?_eq_none.mp (purged.calm i inside x found)
  · obtain ⟨x, found, closes⟩ := purged.fault (by rwa [List.length_map])
    exact ⟨x, found, not_not.mp (mt Exchange.closure?_eq_none.mpr closes)⟩
  · exact (Invalidation.advanceEach_moved _ batch _).length_eq.symm
  · have settled := left i
    rw [found, Option.map_some, Invalidation.settle, Invalidation.advance,
      State.advance_ofSuccess (unsettled inv (List.mem_of_getElem? found))] at settled
    refine ⟨_, settled, by cases decide (i < k) && acknowledged answers[i]?.join <;> decide, ?_⟩
    rw [State.ofSuccess_eq_succeeded_iff, Bool.and_eq_true, decide_eq_true_eq, acknowledged_iff]
    refine and_congr_right fun inside => ⟨?_, ?_⟩
    · rintro ⟨x, answered, own⟩
      have answered := Option.join_eq_some_iff.mp answered
      obtain ⟨url, token⟩ := purgeable_of_asked asked found answered
      exact ⟨url, token, x, answered, own⟩
    · rintro ⟨-, -, x, answered, own⟩
      exact ⟨x, Option.join_eq_some_iff.mpr answered, own⟩

end Call

section Rehearsed
variable {v : Backend} {r r' : Rehearsal} {batch : List Invalidation} {k i : Nat}
  {answers : List (Option Exchange)} {inv : Invalidation}

/-- The answer to the purge of a page in a rehearsal as it stands. -/
def answerIn (v : Backend) (r : Rehearsal) (inv : Invalidation) : Option Exchange :=
  (purge? v inv).map fun request => (Rehearsal.surroundings.trade request r).1

theorem answers_rehearsed (untiring : r.network.IsUntiring)
    (asked : answers.map (Option.map (·.request)) = (batch.take (k + 1)).map (purge? v))
    (trades : Rehearsal.surroundings.Trades r answers.reduceOption r') :
    answers = (batch.take (k + 1)).map (answerIn v r) := by
  have same : (answers.map (Option.map (·.request))).map (Option.map fun request =>
      (Rehearsal.surroundings.trade request r).1) = answers := by
    rw [List.map_map]
    refine (List.map_congr_left fun answer among => ?_).trans (List.map_id _)
    cases answer with
    | none => rfl
    | some x =>
        have own := Rehearsal.exchange_untiring untiring trades x
        exact congrArg some (own (List.reduceOption_mem_iff.mpr among)).symm
  rw [← same, asked, List.map_map]
  rfl

theorem getElem?_answers_rehearsed (answered : answers = (batch.take (k + 1)).map (answerIn v r))
    (upTo : i ≤ k) (at_i : batch[i]? = some inv) : answers[i]? = some (answerIn v r inv) := by
  rw [answered, List.getElem?_map, List.getElem?_take_of_lt (Nat.lt_succ_of_le upTo), at_i]
  rfl

theorem suspends_rehearsed (answered : answers = (batch.take (k + 1)).map (answerIn v r))
    (upTo : i ≤ k) (at_i : batch[i]? = some inv) :
    (∃ x, answers[i]? = some (some x) ∧ ∃ message ends, x.Suspends message ends) ↔
      ((answerIn v r inv).bind (·.closure?)).isSome = true := by
  rw [getElem?_answers_rehearsed answered upTo at_i]
  cases answerIn v r inv with
  | none => simp
  | some x => simp [Option.isSome_iff_ne_none, Exchange.closure?_eq_none]

theorem acknowledged_rehearsed (answered : answers = (batch.take (k + 1)).map (answerIn v r))
    (at_i : batch[i]? = some inv) :
    (i < k ∧ (∃ url, Url.parse inv.expression = .ok url) ∧ Header.isValue v.token = true ∧
        ∃ x, answers[i]? = some (some x) ∧ x.Acknowledges) ↔
      (decide (i < k) && acknowledged (answerIn v r inv)) = true := by
  rw [Bool.and_eq_true, decide_eq_true_eq, acknowledged_iff]
  refine and_congr_right fun before => ?_
  rw [getElem?_answers_rehearsed answered (Nat.le_of_lt before) at_i]
  simp only [Option.some_inj]
  constructor
  · intro own
    exact own.2.2
  · intro own
    obtain ⟨x, given, acknowledges⟩ := own
    obtain ⟨request, built, -⟩ := Option.map_eq_some_iff.mp given
    obtain ⟨parsed, legal⟩ := purge?_eq_some built
    exact ⟨parsed, legal, x, given, acknowledges⟩

end Rehearsed

/-- A path is no URL and nothing is sent for it; the page after it is purged all the same. The
service does not know the third page, so this one and the last fail, for which nothing is sent. -/
theorem pages_settle_up_to_fault_third :
    let api : Url :=
      ⟨"https", some ⟨"", none, some (.domain "api.test"), none⟩, .rooted [""], none, none⟩
    let unknown : Http.Rule := ⟨none, some "https://example.com/b", none, none,
      .response 404 (utf8 "\x7b\"msg\":\"Record not found\"\x7d")⟩
    let outside : Rehearsal := ⟨[], "site-a", none, Rehearsal.opening, [unknown], [], true⟩
    let f := { Forwarder.start outside with backend := some ⟨api, "service", "token", "site-a"⟩ }
    let batch := ["/relative/path", "https://example.com/a", "https://example.com/b",
      "https://example.com/c"].map (Invalidation.ofId 1 .url)
    ∃ run, (purger Rehearsal.surroundings).call .url batch f = run ∧ run.1.2 = .done ∧
      run.1.1.map (·.state) = [.failed, .succeeded, .failed, .failed] ∧
      run.2.requests.map (fun request => (request.method, request.url.toText)) =
        [("PURGE", "https://example.com/a"), ("PURGE", "https://example.com/b")] := by
  intro api unknown outside f batch
  let v : Backend := ⟨api, "service", "token", "site-a"⟩
  have chosen : f.backend = some v := rfl
  have isOpen : f.gate.health (Rehearsal.surroundings.clock f.outside) = none := rfl
  have unsettled : ∀ inv ∈ batch, inv.isTerminal = false := by decide
  obtain ⟨k, answers, -, asked, trades, listed, calm, fault, done, length, settled⟩ :=
    pages_settle_up_to_fault Rehearsal.surroundings chosen isOpen unsettled
  have untiring : outside.network.IsUntiring := by decide
  have answered := answers_rehearsed untiring asked trades
  have third : k = 2 := by
    have some_before : ¬k < 2 := by
      intro before
      have faulty := fault (Nat.lt_trans before (by decide))
      obtain rfl | rfl : k = 0 ∨ k = 1 := by omega
      · have suspends := (suspends_rehearsed answered (Nat.le_refl 0) rfl).mp faulty
        exact absurd suspends (by decide +kernel)
      · have suspends := (suspends_rehearsed answered (Nat.le_refl 1) rfl).mp faulty
        exact absurd suspends (by decide +kernel)
    have none_after : ¬2 < k := by
      intro after
      obtain ⟨x, found, suspends⟩ :=
        (suspends_rehearsed answered (Nat.le_of_lt after) rfl).mpr (by decide +kernel)
      exact calm 2 after x found suspends
    omega
  subst third
  have states := Invalidation.states_of_settled
    (fun i inv => decide (i < 2) && acknowledged (answerIn v outside inv)) length
    fun i inv at_i =>
      have ⟨state, found, terminal, succeeded⟩ := settled i inv at_i
      ⟨state, found, terminal, succeeded.trans (acknowledged_rehearsed answered at_i)⟩
  refine ⟨_, rfl, done, ?_, ?_⟩
  · rw [states]
    decide +kernel
  · rw [listed]
    decide +kernel

end CachePurge.Vendor
