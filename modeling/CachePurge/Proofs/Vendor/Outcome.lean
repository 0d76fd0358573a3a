import CachePurge.Proofs.Vendor.Backend

/-!
What an exchange with the service comes to once its response is inspected: JSON of a response of
success that is no fault of the service, or else a fault. A request counts as failed just when it is
the latter.
-/

namespace CachePurge.Vendor

theorem Fastly.judge_eq_ok {target : String} {status : Nat} {payload : Option Json} {j : Json} :
    judge target status payload = .ok j ↔ Http.isSuccess status = true ∧ payload = some j := by
  cases success : Http.isSuccess status <;> cases payload <;> simp [judge, success]

theorem Fastly.saysOk_iff {j : Json} :
    saysOk j = true ↔ j.member? "status" = some (.string "ok") := by
  rw [saysOk, beq_iff_eq, Option.bind_eq_some_iff]
  simp only [asString?_eq_some, exists_eq_right]

namespace Exchange

/-- The response is one of success, and its body is some JSON. -/
def Yields (x : Exchange) (j : Json) : Prop :=
  ∃ status body, x.result = .ok ⟨status, .ok body⟩ ∧ Http.isSuccess status = true ∧
    Json.parse (Fastly.textOf body) = .ok j

/-- The response is JSON of success, and no fault of the service. -/
def Answers (x : Exchange) : Prop :=
  (∃ j, x.Yields j) ∧ ¬∃ message ends, x.Suspends message ends

/-- The response is JSON of success, and its status is the text that acknowledges a purge. -/
def Acknowledges (x : Exchange) : Prop :=
  ∃ j, x.Yields j ∧ j.member? "status" = some (.string "ok")

theorem closure?_eq_none {x : Exchange} :
    x.closure? = none ↔ ¬∃ message ends, x.Suspends message ends := by
  refine Option.eq_none_iff_forall_ne_some.trans ⟨?_, fun calm closure closes => ?_⟩
  · rintro none ⟨message, ends, suspends⟩
    exact none _ (closure?_eq_some.mpr suspends)
  · exact calm ⟨closure.message, closure.endsAt, closure?_eq_some.mp closes⟩

/-- What a response comes to that is no fault of the service. -/
def verdict (x : Exchange) : Except Fault Json :=
  match x.result with
  | .ok ⟨status, .ok body⟩ => Fastly.judge x.request.url.toText status (Fastly.payload? body)
  | .ok ⟨_, .error fault⟩ | .error fault => .error (.client fault)

/-- What a response comes to. -/
def outcome (x : Exchange) : Except Fault Json :=
  match x.closure? with
  | some closure => .error (.vendorFault closure.message)
  | none => x.verdict

theorem verdict_eq_ok {x : Exchange} {j : Json} : x.verdict = .ok j ↔ x.Yields j := by
  obtain ⟨request, sentAt, result, receivedAt⟩ := x
  match result with
  | .error _ | .ok ⟨_, .error _⟩ => simp [verdict, Yields]
  | .ok ⟨status, .ok body⟩ =>
      rw [verdict, Fastly.judge_eq_ok, Fastly.payload?_eq_some]
      refine ⟨fun ⟨success, parsed⟩ => ⟨status, body, rfl, success, parsed⟩, ?_⟩
      rintro ⟨_, _, result, success, parsed⟩
      cases result
      exact ⟨success, parsed⟩

theorem outcome_eq_ok {x : Exchange} {j : Json} :
    x.outcome = .ok j ↔ x.Yields j ∧ ¬∃ message ends, x.Suspends message ends := by
  rw [← closure?_eq_none, ← verdict_eq_ok, outcome]
  cases x.closure? <;> simp

theorem isOk_outcome {x : Exchange} : x.outcome.isOk = true ↔ x.Answers := by
  have isOk : x.outcome.isOk = true ↔ ∃ j, x.outcome = .ok j := by
    cases x.outcome <;> simp [Except.isOk, Except.toBool]
  rw [isOk, Answers]
  simp only [outcome_eq_ok, exists_and_right]

instance (x : Exchange) : Decidable x.Answers := decidable_of_iff _ isOk_outcome

theorem saysOk_verdict {x : Exchange} :
    x.verdict.toOption.any Fastly.saysOk = true ↔ x.Acknowledges := by
  have any : x.verdict.toOption.any Fastly.saysOk = true ↔
      ∃ j, x.verdict = .ok j ∧ Fastly.saysOk j = true := by
    cases x.verdict <;> simp [Except.toOption]
  rw [any, Acknowledges]
  simp only [verdict_eq_ok, Fastly.saysOk_iff]

instance (x : Exchange) : Decidable x.Acknowledges := decidable_of_iff _ saysOk_verdict

theorem outcome_of_calm {x : Exchange} (calm : x.closure? = none) : x.outcome = x.verdict := by
  rw [outcome, calm]

end Exchange

namespace Fastly
variable {ε : Type} (s : Surroundings ε)

theorem heed_outcome (x : Exchange) (g : GatedLedger ε) :
    (heed s x.request.url.toText x.result g).1 = x.outcome := by
  obtain ⟨request, sentAt, result, receivedAt⟩ := x
  match result with
  | .error _ | .ok ⟨_, .error _⟩ => rfl
  | .ok ⟨status, .ok body⟩ =>
      rw [heed, inspect, Exchange.outcome, Exchange.closure?, Exchange.body?, Option.bind_some]
      cases systemicFault? (payload? body) <;> rfl

theorem heed_tally (target : String) (reply : Except ClientFault Http.Response)
    (g : GatedLedger ε) : (heed s target reply g).2.ledger.tally = g.ledger.tally := by
  match reply with
  | .error _ | .ok ⟨_, .error _⟩ => rfl
  | .ok ⟨status, .ok body⟩ =>
      rw [heed, inspect]
      cases systemicFault? (payload? body) <;> rfl

theorem exchange?_outcome (request : Except Fault Http.Request) (g : GatedLedger ε) :
    (exchange? s request g).1 =
      request >>= fun request => (s.trade request g.ledger.outside).1.outcome := by
  cases request with
  | error fault => rfl
  | ok request =>
      obtain ⟨result, -, -⟩ := send_trade s request g.ledger
      obtain ⟨own, -, -⟩ := Surroundings.trade_fields s request g.ledger.outside
      have heeded := heed_outcome s (s.trade request g.ledger.outside).1
        ⟨(Ledger.send s false request g.ledger).2, g.gate⟩
      rw [own, ← result] at heeded
      rw [exchange?, exchange_eq]
      exact heeded

/-- A request that was given to the client is counted, by what it comes to. -/
theorem exchange_tally (request : Http.Request) (g : GatedLedger ε) :
    ∃ latency, (exchange s request g).2.ledger.tally =
      g.ledger.tally.request (s.trade request g.ledger.outside).1.outcome.isOk latency := by
  have sent : (Ledger.send s false request g.ledger).2.tally = g.ledger.tally := by
    rw [Ledger.send]
    cases Http.prepare false request <;> rfl
  have outcome := exchange?_outcome s (.ok request) g
  rw [exchange?, exchange_eq] at outcome
  rw [exchange_eq]
  refine ⟨_, congrArg₂ (fun t outcome => Tally.request t (Except.isOk outcome) _) ?_ outcome⟩
  exact (heed_tally s _ _ _).trans sent

end Fastly
end CachePurge.Vendor
