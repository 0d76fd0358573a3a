import CachePurge.Proofs.Vendor.Keys
import CachePurge.Proofs.Vendor.Pages

/-!
How a vendor purges a batch as a whole, be it of tags or for the site. If the request for it can be
built it is made once, and what comes of it settles all of the batch alike.
-/

namespace CachePurge.Vendor

variable {ε : Type}

/-- A request that is posted to the API, if the API's URL can be extended and the token may stand in
a header. -/
def post? (v : Backend) (segments : List String) (keys : List (String × String)) :
    Option Http.Request :=
  match v.endpoint segments with
  | .error _ => none
  | .ok url =>
    if Header.isValue v.token then
      some ⟨"POST", url, keys ++ [("fastly-key", v.token), ("accept", "application/json")]⟩
    else none

/-- The request by which a batch of tags is purged, or the site; pages are not purged as a whole. -/
def wholePurge? (v : Backend) (batch : List Invalidation) : Kind → Option Http.Request
  | .tag => post? v [] [("surrogate-key", " ".intercalate (v.digests (batch.map (·.expression))))]
  | .everything => post? v [Tag.siteDigest v.site] []
  | .url | .wildcardUrl => none

/-- The JSON that the purge of a batch accepts: any object for tags, and one that acknowledges it
for the site. -/
def Accepts (j : Json) : Kind → Prop
  | .tag => ∃ members, j = .object members
  | .everything => j.member? "status" = some (.string "ok")
  | .url | .wildcardUrl => False

theorem post?_eq_none {v : Backend} {segments : List String} {keys : List (String × String)} :
    post? v segments keys = none ↔ ¬v.CanSend := by
  rw [post?, Fastly.CanSend, Fastly.endpoint, Url.appendSegments?]
  cases v.apiBase.path <;> simp

theorem wholePurge?_eq_none (v : Backend) (batch : List Invalidation) {kind : Kind}
    (whole : kind = .tag ∨ kind = .everything) : wholePurge? v batch kind = none ↔ ¬v.CanSend := by
  rcases whole with rfl | rfl
  · exact post?_eq_none
  · exact post?_eq_none

/-- These kinds are purged as a whole. -/
theorem operation_wholeBatch {kind : Kind} (whole : kind = .tag ∨ kind = .everything) :
    ∃ (operation : Operation ε) (accepts : Json → Bool), operation? kind = some operation ∧
      (∀ j, accepts j = true ↔ Accepts j kind) ∧
      ∀ (v : Backend) (s : Surroundings ε) (batch : List Invalidation),
        ∃ request, Unblamed request ∧ request.toOption = wholePurge? v batch kind ∧
          operation v s batch =
            Fastly.unlessClosed s batch (wholeBatch s request accepts batch) := by
  rcases whole with rfl | rfl
  · refine ⟨_, Json.isObject, rfl, fun j => ?_, fun v s batch =>
      ⟨_, v.tagsRequest_unblamed _, ?_, rfl⟩⟩
    · cases j <;> simp [Json.isObject, Accepts]
    · rw [Fastly.tagsRequest, wholePurge?, post?]
      cases v.endpoint [] with
      | error fault => rfl
      | ok url =>
          simp only [Fastly.request]
          split <;> rfl
  · refine ⟨_, Fastly.saysOk, rfl, fun j => Fastly.saysOk_iff, fun v s batch =>
      ⟨_, v.siteRequest_unblamed, ?_, rfl⟩⟩
    rw [Fastly.siteRequest, wholePurge?, post?]
    cases v.endpoint [Tag.siteDigest v.site] with
    | error fault => rfl
    | ok url =>
        simp only [Fastly.request]
        split <;> rfl

/-- Whether what came of a request is accepted, if it was made at all. -/
def accepted (accepts : Json → Bool) (answer : Option Exchange) : Bool :=
  answer.any fun x => x.outcome.toOption.any accepts

theorem accepted_iff {accepts : Json → Bool} {answer : Option Exchange} :
    accepted accepts answer = true ↔ ∃ x j, answer = some x ∧ x.Yields j ∧
      (¬∃ message ends, x.Suspends message ends) ∧ accepts j = true := by
  have taken (x : Exchange) : x.outcome.toOption.any accepts = true ↔
      ∃ j, x.outcome = .ok j ∧ accepts j = true := by
    cases x.outcome <;> simp [Except.toOption]
  rw [accepted, Option.any_eq_true]
  simp only [taken, Exchange.outcome_eq_ok, and_assoc, exists_and_left]

theorem accepted_exchange? (s : Surroundings ε) (request : Except Fault Http.Request)
    (accepts : Json → Bool) (g : GatedLedger ε) :
    (Fastly.exchange? s request g).1.toOption.any accepts =
      accepted accepts (answer? s request g.ledger.outside) := by
  rw [Fastly.exchange?_outcome]
  cases request <;> rfl

/-- Whatever came of the request settles all of the batch alike, even a fault that only the caller
acts on. -/
theorem settleBatch_left (accepts : Json → Bool) (outcome : Except Fault Json)
    (batch : List Invalidation) :
    let run := Fastly.settleBatch accepts outcome batch
    (if run.2 = none then run.1 else run.1.map Invalidation.fail) =
      batch.map (Invalidation.settle (outcome.toOption.any accepts)) := by
  cases outcome with
  | ok j => rfl
  | error fault => cases fault <;> rfl

theorem wholeBatch_left (s : Surroundings ε) (request : Except Fault Http.Request)
    (accepts : Json → Bool) (batch : List Invalidation) (g : GatedLedger ε) :
    let run := wholeBatch s request accepts batch g
    (if run.1.2 = none then run.1.1 else run.1.1.map Invalidation.fail) =
      batch.map (Invalidation.settle
        (accepted accepts (answer? s request g.ledger.outside))) := by
  cases batch with
  | nil => rfl
  | cons inv rest =>
      rw [← accepted_exchange?]
      exact settleBatch_left accepts _ (inv :: rest)

/-- A batch was purged as a whole: what was exchanged for it, if its request could be built, and
whether that made it a success. -/
structure PurgedWhole (v : Backend) (s : Surroundings ε) (kind : Kind) (batch : List Invalidation)
    (f : Forwarder ε) (run : (List Invalidation × Ending) × Forwarder ε)
    (answer : Option Exchange) (success : Bool) : Prop where
  asked : answer.map (·.request) = wholePurge? v batch kind
  trades : s.Trades f.outside answer.toList run.2.outside
  listed : run.2.requests = f.requests ++ answer.toList.map (·.request)
  left : run.1 = (batch.map fun inv => { inv with state := .ofSuccess success }, .done)
  succeeded : success = true ↔ ∃ x j, answer = some x ∧ x.Yields j ∧
    (¬∃ message ends, x.Suspends message ends) ∧ Accepts j kind
  calm : (∀ x ∈ answer.toList, x.closure? = none) → run.2.gate = f.gate
  fault : ∀ x ∈ answer.toList, ∀ closure, x.closure? = some closure → run.2.gate = .upTo closure

section Call
variable {v : Backend} (s : Surroundings ε) {f : Forwarder ε} (chosen : f.backend = some v)
  (isOpen : f.gate.health (s.clock f.outside) = none) {kind : Kind}
  (whole : kind = .tag ∨ kind = .everything) {batch : List Invalidation} (nonempty : batch ≠ [])
  (unsettled : ∀ inv ∈ batch, inv.isTerminal = false)
include chosen isOpen whole nonempty unsettled

theorem call_whole : ∃ answer success,
    PurgedWhole v s kind batch f ((purger s).call kind batch f) answer success := by
  obtain ⟨operation, accepts, found, accepts_iff, operates⟩ := operation_wholeBatch (ε := ε) whole
  obtain ⟨request, unblamed, built, gated⟩ := operates v s (batch.map Invalidation.process)
  have same : wholePurge? v (batch.map Invalidation.process) kind = wholePurge? v batch kind := by
    cases kind <;> first | rfl | (rw [wholePurge?, wholePurge?, List.map_map]; rfl)
  rw [same] at built
  obtain ⟨called, gate, outside, requests⟩ := call_passed found chosen isOpen gated
  have course : Course v s kind _ _ _ _ := course_of_wholeBatch v s unblamed accepts
    (batch.map Invalidation.process) ((entered kind f).looked s)
  have left := wholeBatch_left s request accepts (batch.map Invalidation.process)
    ((entered kind f).looked s)
  have own := request_of_answer? s request ((entered kind f).looked s).ledger.outside
  have inside : (batch.map Invalidation.process).isEmpty = false := by
    rw [List.isEmpty_map, List.isEmpty_eq_false_iff]
    exact nonempty
  rw [inside, if_neg Bool.false_ne_true, tried_eq] at course
  obtain ⟨trades, listed, calm, fault⟩ := course
  generalize wholeBatch s request accepts (batch.map Invalidation.process)
    ((entered kind f).looked s) = run at called gate outside requests left trades listed calm fault
  generalize answer? s request ((entered kind f).looked s).ledger.outside = answer at *
  refine ⟨answer, accepted accepts answer, own.trans built, ?_, ?_, ?_, ?_,
    fun none => gate.trans (calm none).2,
    fun x among closure asked => gate.trans (fault x among closure asked).1⟩
  · rw [outside]
    exact .look trades
  · rw [requests, listed]
    exact congrArg (· ++ _) (entered_requests kind f)
  · rw [called, left, List.map_map]
    refine congrArg (·, Ending.done) (List.map_congr_left fun inv among => ?_)
    refine (Invalidation.settle_process (unsettled inv among) _).trans ?_
    rw [Invalidation.settle, Invalidation.advance, State.advance_ofSuccess (unsettled inv among)]
  · rw [accepted_iff]
    simp only [accepts_iff]

/-- A batch of tags or for the site, of which nothing is settled yet, given to the handler of a
backend whose gate is open. Unless its request cannot be built, the request is given to the client
once, and that is all that is sent. The whole batch ends in one state, in which it succeeded just if
the response is one of success, its body is the JSON that such a purge accepts, and it is no fault
of the service. The call reports no fault, and only a fault of the service closes the gate. -/
theorem batch_settles_as_one :
    ∃ (answer : Option Exchange) (state : State),
      let run := (purger s).call kind batch f
      answer.map (·.request) = wholePurge? v batch kind ∧ (answer = none ↔ ¬v.CanSend) ∧
      s.Trades f.outside answer.toList run.2.outside ∧
      run.2.requests = f.requests ++ answer.toList.map (·.request) ∧
      run.1 = (batch.map fun inv => { inv with state }, .done) ∧
      (state = .succeeded ∨ state = .failed) ∧
      (state = .succeeded ↔ ∃ x j, answer = some x ∧ x.Yields j ∧
        (¬∃ message ends, x.Suspends message ends) ∧ Accepts j kind) ∧
      (∀ x message ends, answer = some x → x.Suspends message ends →
        run.2.gate = .upTo ⟨message, ends⟩) ∧
      ((¬∃ x message ends, answer = some x ∧ x.Suspends message ends) →
        run.2.gate = f.gate) := by
  obtain ⟨answer, success, asked, trades, listed, left, succeeded, calm, fault⟩ :=
    call_whole s chosen isOpen whole nonempty unsettled
  refine ⟨answer, .ofSuccess success, asked, ?_, trades, listed, left, ?_, ?_, ?_, ?_⟩
  · rw [← wholePurge?_eq_none v batch whole, ← asked, Option.map_eq_none_iff]
  · cases success <;> decide
  · rw [State.ofSuccess_eq_succeeded_iff]
    exact succeeded
  · rintro x message ends rfl suspends
    exact fault x List.mem_cons_self _ (Exchange.closure?_eq_some.mpr suspends)
  · intro none
    refine calm fun x among => Exchange.closure?_eq_none.mpr fun ⟨message, ends, suspends⟩ => ?_
    exact none ⟨x, message, ends, Option.mem_toList.mp among, suspends⟩

end Call

/-- With a token that may stand in a header two tags are purged by one request, and succeed. With
another nothing is sent for the site, and its purge fails. -/
theorem batch_settles_as_one_pair :
    let api : Url :=
      ⟨"https", some ⟨"", none, some (.domain "api.test"), none⟩, .rooted [""], none, none⟩
    let outside : Rehearsal := ⟨[], "site-a", none, Rehearsal.opening, [], [], true⟩
    let f := fun token =>
      { Forwarder.start outside with backend := some ⟨api, "service", token, "site-a"⟩ }
    let tags := [Invalidation.ofId 1 .tag "a", Invalidation.ofId 2 .tag "b"]
    let site := [Invalidation.ofId 3 .everything ""]
    (∃ run, (purger Rehearsal.surroundings).call .tag tags (f "token") = run ∧
      run.1 = (tags.map Invalidation.succeed, .done) ∧
      run.2.requests.map (fun request => (request.method, request.url.toText)) =
        [("POST", "https://api.test/service/service/purge")]) ∧
    ∃ run, (purger Rehearsal.surroundings).call .everything site (f "to\nken") = run ∧
      run.1 = (site.map Invalidation.fail, .done) ∧ run.2.requests = [] := by
  intro api outside f tags site
  let v : Backend := ⟨api, "service", "token", "site-a"⟩
  let mute : Backend := ⟨api, "service", "to\nken", "site-a"⟩
  have silent : ¬mute.CanSend := fun sends => absurd sends.1 (by decide)
  obtain ⟨answer, state, asked, -, trades, listed, left, -, succeeded, -⟩ :=
    batch_settles_as_one Rehearsal.surroundings (v := v) (f := f "token") rfl rfl
      (.inl rfl) (List.cons_ne_nil _ _ : tags ≠ []) (by decide)
  obtain ⟨nothing, state', -, built', -, listed', left', terminal', succeeded', -⟩ :=
    batch_settles_as_one Rehearsal.surroundings (v := mute) (f := f "to\nken") rfl rfl
      (.inr rfl) (List.cons_ne_nil _ _ : site ≠ []) (by decide)
  refine ⟨⟨_, rfl, ?_⟩, _, rfl, ?_⟩
  · let url : Url := { api with path := .rooted ["service", "service", "purge"] }
    let keys := " ".intercalate (v.digests ["a", "b"])
    let request : Http.Request := ⟨"POST", url, [("surrogate-key", keys), ("fastly-key", "token"),
      ("accept", "application/json")]⟩
    have built : wholePurge? v tags .tag = some request := by
      have path : (["service", "service", "purge"] ++ []).foldl
          (Url.Path.push api.segmentSet) (Url.Path.dropEmptyLast [""]) =
            ["service", "service", "purge"] := by
        decide +kernel
      have legal : Header.isValue v.token = true := by decide
      rw [wholePurge?, post?, v.endpoint_rooted rfl, path]
      exact if_pos legal
    rw [built] at asked
    obtain ⟨x, rfl, own⟩ := Option.map_eq_some_iff.mp asked
    have untiring : outside.network.IsUntiring := by decide
    have answered : x = (Rehearsal.surroundings.trade request outside).1 :=
      own ▸ Rehearsal.exchange_untiring untiring trades x (List.mem_singleton_self x)
    have object : accepted Json.isObject (some x) = true := by
      rw [answered]
      decide +kernel
    obtain ⟨y, j, same, yields, calm, isObject⟩ := accepted_iff.mp object
    have accepts : Accepts j .tag := by
      cases j with
      | object members => exact ⟨members, rfl⟩
      | null | bool _ | number _ | string _ | array _ => cases isObject
    obtain rfl := succeeded.mpr ⟨y, j, same, yields, calm, accepts⟩
    refine ⟨left, ?_⟩
    rw [listed, Option.toList_some, List.map_singleton, own]
    exact congrArg (fun text => [("POST", text)]) (by decide : url.toText = _)
  · obtain rfl := built'.mpr silent
    obtain rfl := terminal'.resolve_left fun own => by simpa using succeeded'.mp own
    exact ⟨left', listed'⟩

end CachePurge.Vendor
