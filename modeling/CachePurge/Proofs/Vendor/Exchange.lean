import CachePurge.Proofs.Gate
import CachePurge.Proofs.Ledger
import CachePurge.Vendor.Fastly

/-!
What a vendor's backend exchanges with the service, and when. A response whose message names one of
two faults suspends the service for some hours from the moment at which it is there.
-/

namespace CachePurge

theorem Search.occursIn_iff {needle text : List Char} :
    occursIn needle text = true ↔ needle <:+: text := by
  induction text with
  | nil => rw [occursIn, List.isEmpty_iff, List.infix_nil]
  | cons c rest ih =>
      rw [occursIn, Bool.or_eq_true, List.isPrefixOf_iff_prefix, ih, List.infix_cons_iff]

/-- The gate that a closure leaves, which lasts no longer than instants can be told. -/
def Gate.upTo (closure : Closure) : Gate :=
  ⟨some ⟨closure.message, min closure.endsAt lastInstant⟩⟩

namespace Vendor

/-- A request that was given to the client, what came of it, and the times of both. -/
structure Exchange where
  request : Http.Request
  sentAt : Nat
  result : Except ClientFault Http.Response
  receivedAt : Nat

namespace Exchange

/-- The response is a fault of the service as a whole: a JSON object with a message that names one,
which suspends the service until some time. -/
def Suspends (x : Exchange) (message : String) (ends : Nat) : Prop :=
  ∃ status body members text,
    x.result = .ok ⟨status, .ok body⟩ ∧
    Json.parse (Fastly.textOf body) = .ok (.object members) ∧
    (Json.object members).member? "msg" = some (.string text) ∧
    message = "fastly: " ++ text ∧
    (Fastly.credentialsFault.toList <:+: text.toList ∧
        ends = x.receivedAt + Gate.nanosOfSeconds (24 * 60 * 60) ∨
      ¬Fastly.credentialsFault.toList <:+: text.toList ∧
        Fastly.notFoundFault.toList <:+: text.toList ∧
        ends = x.receivedAt + Gate.nanosOfSeconds (12 * 60 * 60))

def body? (x : Exchange) : Option (List UInt8) :=
  match x.result with
  | .ok ⟨_, .ok body⟩ => some body
  | .ok ⟨_, .error _⟩ | .error _ => none

/-- The closure of the gate that a response asks for. -/
def closure? (x : Exchange) : Option Closure :=
  x.body?.bind fun body => (Fastly.systemicFault? (Fastly.payload? body)).map
    fun (message, ttl) => ⟨message, x.receivedAt + ttl⟩

theorem body?_eq_some {x : Exchange} {body : List UInt8} :
    x.body? = some body ↔ ∃ status, x.result = .ok ⟨status, .ok body⟩ := by
  rw [body?]
  split
  · next status own result =>
      rw [result]
      constructor
      · intro same
        obtain rfl := Option.some.inj same
        exact ⟨status, rfl⟩
      · rintro ⟨status', same⟩
        cases same
        rfl
  · next result => simp [result]
  · next result => simp [result]

end Exchange

namespace Fastly

theorem payload?_eq_some {body : List UInt8} {j : Json} :
    payload? body = some j ↔ Json.parse (textOf body) = .ok j := by
  rw [payload?]
  split
  · next own parsed => simp [parsed]
  · next parsed => simp [parsed]

theorem member?_eq_some {j own : Json} {field : String} (found : j.member? field = some own) :
    ∃ members, j = .object members := by
  cases j with
  | object members => exact ⟨members, rfl⟩
  | null | bool _ | number _ | string _ | array _ => cases found

theorem asString?_eq_some {j : Json} {text : String} :
    j.asString? = some text ↔ j = .string text := by
  cases j <;> simp [Json.asString?]

theorem closureOf_eq_some {text : String} {ttl : Nat} :
    closureOf text = some ttl ↔
      credentialsFault.toList <:+: text.toList ∧ ttl = Gate.nanosOfSeconds (24 * 60 * 60) ∨
      ¬credentialsFault.toList <:+: text.toList ∧ notFoundFault.toList <:+: text.toList ∧
        ttl = Gate.nanosOfSeconds (12 * 60 * 60) := by
  rw [← Search.occursIn_iff, ← Search.occursIn_iff, closureOf]
  split
  · next credentials =>
      simp only [credentials, true_and, not_true_eq_false, false_and, or_false, Option.some.injEq]
      exact eq_comm
  · next credentials =>
      split
      · next missing =>
          simp only [credentials, missing, false_and, false_or, not_false_eq_true, true_and,
            Option.some.injEq, Bool.false_eq_true]
          exact eq_comm
      · next missing => simp [credentials, missing]

theorem systemicFault?_eq_some {payload : Option Json} {message : String} {ttl : Nat} :
    systemicFault? payload = some (message, ttl) ↔
      ∃ j text, payload = some j ∧ j.member? "msg" = some (.string text) ∧
        message = "fastly: " ++ text ∧ closureOf text = some ttl := by
  simp only [systemicFault?, Option.bind_eq_bind, Option.bind_eq_some_iff, Option.pure_def,
    Option.some.injEq, Prod.mk.injEq]
  constructor
  · rintro ⟨j, own, text, ⟨field, found, string⟩, ttl', closes, rfl, rfl⟩
    rw [asString?_eq_some] at string
    subst string
    exact ⟨j, text, own, found, rfl, closes⟩
  · rintro ⟨j, text, own, found, rfl, closes⟩
    exact ⟨j, own, text, ⟨.string text, found, rfl⟩, ttl, closes, rfl, rfl⟩

end Fastly

theorem Exchange.closure?_eq_some {x : Exchange} {message : String} {ends : Nat} :
    x.closure? = some ⟨message, ends⟩ ↔ x.Suspends message ends := by
  simp only [closure?, Option.bind_eq_some_iff, body?_eq_some, Option.map_eq_some_iff,
    Prod.exists, Closure.mk.injEq, Fastly.systemicFault?_eq_some, Fastly.payload?_eq_some]
  constructor
  · rintro ⟨body, ⟨status, result⟩, _, ttl, ⟨j, text, parsed, found, rfl, closes⟩, rfl, rfl⟩
    obtain ⟨members, rfl⟩ := Fastly.member?_eq_some found
    refine ⟨status, body, members, text, result, parsed, found, rfl, ?_⟩
    rcases Fastly.closureOf_eq_some.mp closes with ⟨credentials, rfl⟩ | ⟨other, missing, rfl⟩
    · exact .inl ⟨credentials, rfl⟩
    · exact .inr ⟨other, missing, rfl⟩
  · rintro ⟨status, body, members, text, result, parsed, found, rfl, closes⟩
    have timed : ∃ ttl, Fastly.closureOf text = some ttl ∧ ends = x.receivedAt + ttl := by
      rcases closes with ⟨credentials, rfl⟩ | ⟨other, missing, rfl⟩
      · refine ⟨Gate.nanosOfSeconds (24 * 60 * 60), ?_, rfl⟩
        exact Fastly.closureOf_eq_some.mpr (.inl ⟨credentials, rfl⟩)
      · refine ⟨Gate.nanosOfSeconds (12 * 60 * 60), ?_, rfl⟩
        exact Fastly.closureOf_eq_some.mpr (.inr ⟨other, missing, rfl⟩)
    obtain ⟨ttl, closure, rfl⟩ := timed
    exact ⟨body, ⟨status, result⟩, _, ttl, ⟨_, text, parsed, found, rfl, closure⟩, rfl, rfl⟩

end Vendor

open Vendor

namespace Surroundings
variable {ε : Type} (s : Surroundings ε)

/-- What the clock shows. -/
def clock (e : ε) : Nat := (s.now e).1

/-- Time passes while the clock is read and while an answer is awaited, and it never runs back. -/
structure RunsForward : Prop where
  read : ∀ e, s.clock e ≤ s.clock (s.now e).2
  deliver : ∀ message e, s.clock e ≤ s.clock (s.deliver message e).2

/-- What the client, which checks certificates, makes of a request, and the surroundings then. -/
def trade (request : Http.Request) (e : ε) : Exchange × ε :=
  match Http.prepare false request with
  | .error fault => (⟨request, s.clock e, .error fault, s.clock e⟩, e)
  | .ok message =>
    let (delivery, e') := s.deliver message e
    (⟨request, s.clock e, Http.receive request delivery.reply, s.clock e'⟩, e')

/-- The surroundings go from one state to another while some exchanges are made, one after the
other, and the clock is read in between. -/
inductive Trades : ε → List Exchange → ε → Prop where
  | rest (e : ε) : Trades e [] e
  | look {e e' : ε} {xs : List Exchange} : Trades (s.now e).2 xs e' → Trades e xs e'
  | trade {e e' : ε} {xs : List Exchange} (request : Http.Request) :
      Trades (s.trade request e).2 xs e' → Trades e ((s.trade request e).1 :: xs) e'

variable {s}

theorem Trades.trans {e e' e'' : ε} {xs more : List Exchange} (first : s.Trades e xs e')
    (second : s.Trades e' more e'') : s.Trades e (xs ++ more) e'' := by
  induction first with
  | rest => exact second
  | look _ ih => exact .look (ih second)
  | trade request _ ih => exact .trade request (ih second)

theorem trade_fields (s : Surroundings ε) (request : Http.Request) (e : ε) :
    (s.trade request e).1.request = request ∧ (s.trade request e).1.sentAt = s.clock e ∧
      (s.trade request e).1.receivedAt = s.clock (s.trade request e).2 := by
  rw [Surroundings.trade]
  split <;> exact ⟨rfl, rfl, rfl⟩

theorem RunsForward.trade (forward : s.RunsForward) (request : Http.Request) (e : ε) :
    s.clock e ≤ s.clock (s.trade request e).2 := by
  rw [Surroundings.trade]
  split
  · exact Nat.le_refl _
  · exact forward.deliver _ e

theorem RunsForward.trades (forward : s.RunsForward) {e e' : ε} {xs : List Exchange}
    (run : s.Trades e xs e') :
    s.clock e ≤ s.clock e' ∧ ∀ x ∈ xs, s.clock e ≤ x.sentAt ∧ x.receivedAt ≤ s.clock e' := by
  induction run with
  | rest e => exact ⟨Nat.le_refl _, fun _ among => absurd among List.not_mem_nil⟩
  | @look e _ _ _ ih =>
      have first := forward.read e
      refine ⟨Nat.le_trans first ih.1, fun x among => ?_⟩
      exact ⟨Nat.le_trans first (ih.2 x among).1, (ih.2 x among).2⟩
  | @trade e _ _ request _ ih =>
      obtain ⟨-, sent, received⟩ := trade_fields s request e
      have first := forward.trade request e
      refine ⟨Nat.le_trans first ih.1, fun x among => ?_⟩
      rcases List.mem_cons.mp among with rfl | later
      · rw [received]
        exact ⟨Nat.le_of_eq sent.symm, ih.1⟩
      · exact ⟨Nat.le_trans first (ih.2 x later).1, (ih.2 x later).2⟩

end Surroundings
end CachePurge
