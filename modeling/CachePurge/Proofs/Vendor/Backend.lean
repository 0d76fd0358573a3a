import CachePurge.Proofs.Lockstep
import CachePurge.Proofs.Vendor.Exchange
import CachePurge.Vendor.Purger

/-!
What the operations of a backend do once the gate lets them: which exchanges they make, and what a
fault of the service among these does to the gate and to the rest of the batch. None of it depends
on what the gate was.
-/

namespace CachePurge.Vendor

variable {ε α β σ : Type}

/-- From states that are alike a program gives the same answer, and leaves them alike. -/
def Blind (alike : σ → σ → Prop) (body : StateM σ α) : Prop :=
  ∀ st st', alike st st' → (body st).1 = (body st').1 ∧ alike (body st).2 (body st').2

namespace Blind
variable {alike : σ → σ → Prop}

theorem pure (a : α) : Blind alike (Pure.pure a) := Lockstep.pure rfl

theorem bind {x : StateM σ α} {f : α → StateM σ β} (first : Blind alike x)
    (second : ∀ a, Blind alike (f a)) : Blind alike (x >>= f) :=
  Lockstep.bind_eq first second

end Blind

namespace GatedLedger

/-- But for the gate. -/
def Alike (g g' : GatedLedger ε) : Prop := g.ledger = g'.ledger

theorem onLedger_blind (body : StateM (Ledger ε) α) : Blind Alike (onLedger body) := by
  intro g g' same
  rw [onLedger, onLedger, same]
  exact ⟨rfl, rfl⟩

theorem closeGate_blind (s : Surroundings ε) (message : String) (ttl : Nat) :
    Blind Alike (closeGate s message ttl) :=
  (onLedger_blind _).bind fun _ _ _ same => ⟨rfl, same⟩

end GatedLedger

open GatedLedger (Alike onLedger_blind closeGate_blind)

namespace Fastly

theorem inspect_blind (s : Surroundings ε) (target : String) (status : Nat) (body : List UInt8) :
    Blind Alike (inspect s target status body) := by
  rw [inspect]
  split
  · exact (closeGate_blind s _ _).bind fun _ => .pure _
  · exact .pure _

/-- What the reply to a request comes to. -/
def heed (s : Surroundings ε) (target : String) :
    Except ClientFault Http.Response → StateM (GatedLedger ε) (Except Fault Json)
  | .ok ⟨status, .ok body⟩ => inspect s target status body
  | .ok ⟨_, .error fault⟩ | .error fault => pure (.error (.client fault))

theorem exchange_eq (s : Surroundings ε) (request : Http.Request) :
    exchange s request = do
      let (reply, took) ← GatedLedger.onLedger (Ledger.send s false request)
      let outcome ← heed s request.url.toText reply
      GatedLedger.onLedger (Ledger.countRequest outcome.isOk took.toFloat.toBits)
      return outcome := by
  refine congrArg (_ >>= ·) (funext fun (reply, took) => ?_)
  match reply with
  | .error _ | .ok ⟨_, .error _⟩ | .ok ⟨_, .ok _⟩ => rfl

theorem heed_blind (s : Surroundings ε) (target : String)
    (reply : Except ClientFault Http.Response) : Blind Alike (heed s target reply) := by
  match reply with
  | .error _ | .ok ⟨_, .error _⟩ => exact .pure _
  | .ok ⟨status, .ok body⟩ => exact inspect_blind s target status body

theorem exchange?_blind (s : Surroundings ε) (request : Except Fault Http.Request) :
    Blind Alike (exchange? s request) := by
  cases request with
  | error fault => exact .pure _
  | ok request =>
      rw [exchange?, exchange_eq]
      refine (onLedger_blind _).bind fun (reply, took) => ?_
      exact (heed_blind s _ reply).bind fun _ => (onLedger_blind _).bind fun _ => .pure _

theorem purgePagesFrom_blind (v : Fastly) (s : Surroundings ε) (batch : List Invalidation) :
    Blind Alike (v.purgePagesFrom s batch) := by
  induction batch with
  | nil => exact .pure _
  | cons inv rest ih =>
      refine (exchange?_blind s _).bind fun outcome => ?_
      split
      · exact .pure _
      · exact ih.bind fun _ => .pure _

end Fastly

theorem send_trade (s : Surroundings ε) (request : Http.Request) (l : Ledger ε) :
    (Ledger.send s false request l).1.1 = (s.trade request l.outside).1.result ∧
      (Ledger.send s false request l).2.outside = (s.trade request l.outside).2 ∧
      (Ledger.send s false request l).2.requests = l.requests ++ [request] := by
  rw [Ledger.send, Surroundings.trade]
  cases Http.prepare false request with
  | error fault => exact ⟨rfl, rfl, Ledger.requests_note _ l⟩
  | ok message => exact ⟨rfl, rfl, Ledger.requests_note _ _⟩

/-- A result is no fault of the vendor. -/
def Unblamed (result : Except Fault α) : Prop :=
  ∀ message, result ≠ .error (.vendorFault message)

theorem Unblamed.bind {x : Except Fault α} {f : α → Except Fault β} (first : Unblamed x)
    (second : ∀ a, Unblamed (f a)) : Unblamed (x >>= f) := by
  cases x with
  | ok a => exact second a
  | error fault =>
      rintro message ⟨rfl⟩
      exact first message rfl

/-- A request that could perhaps not be built was made: what was exchanged for it, and what that
came to. -/
structure Exchanged (s : Surroundings ε) (request : Except Fault Http.Request) (g : GatedLedger ε)
    (run : Except Fault Json × GatedLedger ε) (xs : List Exchange) : Prop where
  own : xs.map (·.request) = request.toOption.toList
  trades : s.Trades g.ledger.outside xs run.2.ledger.outside
  listed : run.2.ledger.requests = g.ledger.requests ++ xs.map (·.request)
  calm : (∀ x ∈ xs, x.closure? = none) → Unblamed run.1 ∧ run.2.gate = g.gate
  fault : ∀ x ∈ xs, ∀ closure, x.closure? = some closure →
    run.1 = .error (.vendorFault closure.message) ∧ run.2.gate = .upTo closure

namespace Fastly

theorem judge_unblamed (target : String) (status : Nat) (payload : Option Json) :
    Unblamed (judge target status payload) := by
  unfold judge
  split
  · nofun
  · cases payload <;> nofun

/-- The gate is closed at the moment at which the response is there. -/
theorem heeded (s : Surroundings ε) (x : Exchange) (target : String) (g : GatedLedger ε)
    (now : x.receivedAt = s.clock g.ledger.outside) :
    (heed s target x.result g).2.ledger.requests = g.ledger.requests ∧
      s.Trades g.ledger.outside [] (heed s target x.result g).2.ledger.outside ∧
      (x.closure? = none → Unblamed (heed s target x.result g).1 ∧
        (heed s target x.result g).2.gate = g.gate) ∧
      ∀ closure, x.closure? = some closure →
        (heed s target x.result g).1 = .error (.vendorFault closure.message) ∧
          (heed s target x.result g).2.gate = .upTo closure := by
  obtain ⟨request, sentAt, result, receivedAt⟩ := x
  match result with
  | .error _ | .ok ⟨_, .error _⟩ => exact ⟨rfl, .rest _, fun _ => ⟨nofun, rfl⟩, nofun⟩
  | .ok ⟨status, .ok body⟩ =>
      rw [heed, inspect]
      cases closes : systemicFault? (payload? body) with
      | none =>
          have calm : Exchange.closure? ⟨request, sentAt, .ok ⟨status, .ok body⟩, receivedAt⟩ =
              none := by
            rw [Exchange.closure?, Exchange.body?, Option.bind_some, closes, Option.map_none]
          refine ⟨rfl, .rest _, fun _ => ⟨judge_unblamed _ _ _, rfl⟩, fun closure asked => ?_⟩
          rw [calm] at asked
          cases asked
      | some fault =>
          obtain ⟨message, ttl⟩ := fault
          have asks : Exchange.closure? ⟨request, sentAt, .ok ⟨status, .ok body⟩, receivedAt⟩ =
              some ⟨message, receivedAt + ttl⟩ := by
            rw [Exchange.closure?, Exchange.body?, Option.bind_some, closes, Option.map_some]
          refine ⟨rfl, .look (.rest _), fun calm => ?_, fun closure asked => ?_⟩
          · rw [asks] at calm
            cases calm
          · obtain rfl := Option.some.inj (asks.symm.trans asked)
            subst now
            exact ⟨rfl, Gate.close_eq _ _ _⟩

/-- The exchange for a request, if that could be built. -/
def tried (s : Surroundings ε) (request : Except Fault Http.Request) (e : ε) : List Exchange :=
  match request with
  | .ok request => [(s.trade request e).1]
  | .error _ => []

theorem exchanged (s : Surroundings ε) {request : Except Fault Http.Request}
    (unblamed : Unblamed request) (g : GatedLedger ε) :
    Exchanged s request g (exchange? s request g) (tried s request g.ledger.outside) := by
  cases request with
  | error fault =>
      refine ⟨rfl, .rest _, (List.append_nil _).symm, fun _ => ⟨?_, rfl⟩, ?_⟩
      · rintro message ⟨rfl⟩
        exact unblamed message rfl
      · exact fun _ among => absurd among List.not_mem_nil
  | ok request =>
      obtain ⟨result, outside, listed⟩ := send_trade s request g.ledger
      obtain ⟨own, -, received⟩ := Surroundings.trade_fields s request g.ledger.outside
      obtain ⟨kept, looks, calm, fault⟩ := heeded s (s.trade request g.ledger.outside).1
        request.url.toText ⟨(Ledger.send s false request g.ledger).2, g.gate⟩
        (received.trans (congrArg s.clock outside.symm))
      rw [← result] at kept looks calm fault
      rw [outside] at looks
      rw [exchange?, exchange_eq]
      refine ⟨congrArg (· :: []) own, .trade request looks, ?_,
        fun none => calm (none _ (List.mem_singleton_self _)), fun x among => ?_⟩
      · rw [tried, List.map_singleton, own, ← listed]
        exact kept
      · obtain rfl := List.mem_singleton.mp among
        exact fault

theorem request_unblamed (v : Fastly) (method : String) (url : Url) :
    Unblamed (v.request method url) := by
  unfold request
  split <;> nofun

theorem endpoint_unblamed (v : Fastly) (segments : List String) :
    Unblamed (v.endpoint segments) := by
  unfold endpoint
  split <;> nofun

theorem tagsRequest_unblamed (v : Fastly) (tags : List String) : Unblamed (v.tagsRequest tags) :=
  (v.endpoint_unblamed []).bind fun url => (v.request_unblamed "POST" url).bind fun _ => nofun

theorem siteRequest_unblamed (v : Fastly) : Unblamed v.siteRequest :=
  (v.endpoint_unblamed _).bind (v.request_unblamed "POST")

theorem pageRequest_unblamed (v : Fastly) (url : String) : Unblamed (v.pageRequest url) := by
  unfold pageRequest
  split
  · exact v.request_unblamed "PURGE" _
  · nofun

end Fastly

/-- The requests by which the pages of a batch are purged, but for those that cannot be built. -/
def pageRequests (v : Fastly) (batch : List Invalidation) : List Http.Request :=
  batch.filterMap fun inv => (v.pageRequest inv.expression).toOption

/-- The last of the exchanges that a batch led to was a fault of the service, and none before it.
When it came `settled` invalidations had been seen to, which were pages. -/
def InterruptedAt (v : Fastly) (kind : Kind) (batch : List Invalidation) (xs : List Exchange)
    (settled : Nat) : Prop :=
  settled < batch.length ∧ (kind ≠ .url → settled = 0) ∧
    ∃ others x, xs = others ++ [x] ∧ (∀ y ∈ others, y.closure? = none) ∧
      others.map (·.request) = pageRequests v (batch.take settled)

/-- What came of a batch that the gate let pass. -/
structure Course (v : Fastly) (s : Surroundings ε) (kind : Kind) (batch : List Invalidation)
    (g : GatedLedger ε) (run : (List Invalidation × Option Fault) × GatedLedger ε)
    (xs : List Exchange) : Prop where
  trades : s.Trades g.ledger.outside xs run.2.ledger.outside
  listed : run.2.ledger.requests = g.ledger.requests ++ xs.map (·.request)
  calm : (∀ x ∈ xs, x.closure? = none) → run.1.2 = none ∧ run.2.gate = g.gate
  fault : ∀ x ∈ xs, ∀ closure, x.closure? = some closure →
    run.2.gate = .upTo closure ∧ run.1.2 ≠ none ∧
      ∃ settled, InterruptedAt v kind batch xs settled ∧
        run.1.1.drop settled = batch.drop settled

theorem Course.empty (v : Fastly) (s : Surroundings ε) (kind : Kind) (g : GatedLedger ε) :
    Course v s kind [] g (([], none), g) [] where
  trades := .rest _
  listed := (List.append_nil _).symm
  calm _ := ⟨rfl, rfl⟩
  fault _ among := absurd among List.not_mem_nil

theorem settleBatch_unblamed {outcome : Except Fault Json} (unblamed : Unblamed outcome)
    (accepts : Json → Bool) (batch : List Invalidation) :
    (Fastly.settleBatch accepts outcome batch).2 = none := by
  match outcome with
  | .ok _ => rfl
  | .error (.vendorFault message) => exact absurd rfl (unblamed message)
  | .error (.client _) | .error (.unreadable _) | .error (.invalidUrl _) | .error .invalidHeader
  | .error (.environment _) | .error (.unexpectedStatus _ _) | .error (.malformedResponse _)
  | .error (.configuration _) | .error (.panicked _) => rfl

theorem eq_singleton_of_own {request : Except Fault Http.Request} {xs : List Exchange}
    {x : Exchange} (own : xs.map (·.request) = request.toOption.toList) (among : x ∈ xs) :
    xs = [x] := by
  cases request with
  | error fault =>
      obtain rfl := List.map_eq_nil_iff.mp own
      exact absurd among List.not_mem_nil
  | ok request =>
      obtain ⟨y, rfl, -⟩ := List.map_eq_singleton_iff.mp own
      rw [List.mem_singleton.mp among]

theorem interruptedAt_zero (v : Fastly) {kind : Kind} {batch : List Invalidation}
    (nonempty : batch ≠ []) {xs : List Exchange} {x : Exchange} (only : xs = [x]) :
    InterruptedAt v kind batch xs 0 :=
  ⟨List.length_pos_iff.mpr nonempty, fun _ => rfl, [], x, only,
    fun _ among => absurd among List.not_mem_nil, rfl⟩

/-- What is done for a batch as a whole, unless it is empty. -/
def wholeBatch (s : Surroundings ε) (request : Except Fault Http.Request) (accepts : Json → Bool)
    (batch : List Invalidation) : StateM (GatedLedger ε) (List Invalidation × Option Fault) := do
  if batch.isEmpty then return (batch, none)
  let outcome ← Fastly.exchange? s request
  return Fastly.settleBatch accepts outcome batch

theorem wholeBatch_blind (s : Surroundings ε) (request : Except Fault Http.Request)
    (accepts : Json → Bool) (batch : List Invalidation) :
    Blind Alike (wholeBatch s request accepts batch) := by
  unfold wholeBatch
  split
  · exact .pure _
  · exact (Fastly.exchange?_blind s request).bind fun _ => .pure _

theorem course_of_wholeBatch (v : Fastly) (s : Surroundings ε) {kind : Kind}
    {request : Except Fault Http.Request} (unblamed : Unblamed request) (accepts : Json → Bool)
    (batch : List Invalidation) (g : GatedLedger ε) :
    Course v s kind batch g (wholeBatch s request accepts batch g)
      (if batch.isEmpty then [] else Fastly.tried s request g.ledger.outside) := by
  cases batch with
  | nil => exact Course.empty v s kind g
  | cons inv rest =>
      obtain ⟨own, trades, listed, calm, fault⟩ := Fastly.exchanged s unblamed g
      refine ⟨trades, listed, fun none => ?_, fun x among closure asked => ?_⟩
      · obtain ⟨unblamed, same⟩ := calm none
        exact ⟨settleBatch_unblamed unblamed accepts (inv :: rest), same⟩
      · obtain ⟨blamed, closed⟩ := fault x among closure asked
        have only := eq_singleton_of_own own among
        refine ⟨closed, ?_, 0, interruptedAt_zero v (List.cons_ne_nil inv rest) only, ?_⟩
        all_goals simp only [wholeBatch, List.isEmpty_cons, Bool.false_eq_true, if_false,
          bind_apply, blamed]
        · nofun
        · rfl

section Pages
variable (v : Fastly) (s : Surroundings ε) {inv : Invalidation} (rest : List Invalidation)
  {g : GatedLedger ε}

theorem purgePagesFrom_blamed {message : String}
    (blamed : (Fastly.exchange? s (v.pageRequest inv.expression) g).1 =
      .error (.vendorFault message)) :
    v.purgePagesFrom s (inv :: rest) g =
      ((inv :: rest, some (.vendorFault message)),
        (Fastly.exchange? s (v.pageRequest inv.expression) g).2) := by
  rw [Fastly.purgePagesFrom, bind_apply, blamed]
  rfl

theorem purgePagesFrom_unblamed
    (unblamed : Unblamed (Fastly.exchange? s (v.pageRequest inv.expression) g).1) :
    v.purgePagesFrom s (inv :: rest) g =
      let run := v.purgePagesFrom s rest (Fastly.exchange? s (v.pageRequest inv.expression) g).2
      ((inv.settle ((Fastly.exchange? s (v.pageRequest inv.expression) g).1.toOption.any
        Fastly.saysOk) :: run.1.1, run.1.2), run.2) := by
  rw [Fastly.purgePagesFrom, bind_apply]
  generalize Fastly.exchange? s (v.pageRequest inv.expression) g = first at unblamed ⊢
  obtain ⟨outcome, g'⟩ := first
  match outcome with
  | .ok payload => rfl
  | .error (.vendorFault message) => exact absurd rfl (unblamed message)
  | .error (.client _) | .error (.unreadable _) | .error (.invalidUrl _) | .error .invalidHeader
  | .error (.environment _) | .error (.unexpectedStatus _ _) | .error (.malformedResponse _)
  | .error (.configuration _) | .error (.panicked _) => rfl

end Pages

theorem pageRequests_cons (v : Fastly) (inv : Invalidation) (rest : List Invalidation) :
    pageRequests v (inv :: rest) =
      (v.pageRequest inv.expression).toOption.toList ++ pageRequests v rest := by
  rw [pageRequests, List.filterMap_cons]
  cases (v.pageRequest inv.expression).toOption <;> rfl

theorem course_of_pages (v : Fastly) (s : Surroundings ε) (batch : List Invalidation)
    (g : GatedLedger ε) :
    ∃ xs, Course v s .url batch g (v.purgePagesFrom s batch g) xs := by
  induction batch generalizing g with
  | nil => exact ⟨[], Course.empty v s .url g⟩
  | cons inv rest ih =>
      obtain ⟨own, trades, listed, calm, fault⟩ :=
        Fastly.exchanged s (v.pageRequest_unblamed inv.expression) g
      generalize Fastly.tried s (v.pageRequest inv.expression) g.ledger.outside = xs at *
      by_cases quiet : ∀ x ∈ xs, x.closure? = none
      · obtain ⟨unblamed, same⟩ := calm quiet
        obtain ⟨more, trades', listed', calm', fault'⟩ :=
          ih (Fastly.exchange? s (v.pageRequest inv.expression) g).2
        rw [purgePagesFrom_unblamed v s rest unblamed]
        refine ⟨xs ++ more, trades.trans trades', ?_, fun none => ?_,
          fun x among closure asked => ?_⟩
        · rw [listed', listed, List.map_append, List.append_assoc]
        · obtain ⟨done, still⟩ := calm' fun x among => none x (List.mem_append_right xs among)
          exact ⟨done, still.trans same⟩
        · have later : x ∈ more := by
            refine (List.mem_append.mp among).resolve_left fun first => ?_
            rw [quiet x first] at asked
            cases asked
          obtain ⟨closed, failed, settled, interrupted, left⟩ := fault' x later closure asked
          obtain ⟨inside, -, others, last, split, before, requests⟩ := interrupted
          refine ⟨closed, failed, settled + 1, ⟨Nat.succ_lt_succ inside,
            fun other => absurd rfl other, xs ++ others, last, ?_, ?_, ?_⟩, left⟩
          · rw [split, List.append_assoc]
          · exact List.forall_mem_append.mpr ⟨quiet, before⟩
          · rw [List.map_append, own, requests, List.take_succ_cons, pageRequests_cons]
      · obtain ⟨x, among, closure, asked⟩ : ∃ x ∈ xs, ∃ closure, x.closure? = some closure := by
          simpa [Option.ne_none_iff_exists'] using quiet
        obtain ⟨blamed, closed⟩ := fault x among closure asked
        rw [purgePagesFrom_blamed v s rest blamed]
        refine ⟨xs, trades, listed, fun none => absurd none quiet, fun y also closure' asked' => ?_⟩
        exact ⟨(fault y also closure' asked').2, nofun, 0,
          interruptedAt_zero v (List.cons_ne_nil inv rest) (eq_singleton_of_own own among), rfl⟩

section Gate
variable (s : Surroundings ε) (batch : List Invalidation) (g : GatedLedger ε)
  (body : StateM (GatedLedger ε) (List Invalidation × Option Fault))

/-- A ledger after the clock was read. -/
def GatedLedger.looked : GatedLedger ε :=
  { g with ledger := { g.ledger with outside := (s.now g.ledger.outside).2 } }

theorem unlessClosed_closed {message : String}
    (closed : g.gate.health (s.clock g.ledger.outside) = some message) :
    Fastly.unlessClosed s batch body g =
      ((batch, some (.vendorFault message)), g.looked s) := by
  have health : GatedLedger.health s g = (some message, g.looked s) := congrArg (·, _) closed
  rw [Fastly.unlessClosed, bind_apply, health]
  rfl

theorem unlessClosed_open (isOpen : g.gate.health (s.clock g.ledger.outside) = none) :
    Fastly.unlessClosed s batch body g = body (g.looked s) := by
  have health : GatedLedger.health s g = (none, g.looked s) := congrArg (·, _) isOpen
  rw [Fastly.unlessClosed, bind_apply, health]

end Gate

theorem Course.looked {v : Fastly} {s : Surroundings ε} {kind : Kind} {batch : List Invalidation}
    {g : GatedLedger ε} {run : (List Invalidation × Option Fault) × GatedLedger ε}
    {xs : List Exchange} (course : Course v s kind batch (g.looked s) run xs) :
    Course v s kind batch g run xs :=
  { course with trades := .look course.trades }

/-- A backend's handler for a kind. -/
abbrev Operation (ε : Type) : Type :=
  Backend → Surroundings ε → List Invalidation →
    StateM (GatedLedger ε) (List Invalidation × Option Fault)

/-- Every operation is a gate before a batch that goes its course. -/
theorem operation_course {kind : Kind} {operation : Operation ε}
    (found : operation? kind = some operation) (v : Backend) (s : Surroundings ε)
    (batch : List Invalidation) :
    ∃ body, operation v s batch = Fastly.unlessClosed s batch body ∧ Blind Alike body ∧
      ∀ g, ∃ xs, Course v s kind batch g (body g) xs := by
  cases kind with
  | tag =>
      cases found
      exact ⟨_, rfl, wholeBatch_blind s _ _ batch, fun g =>
        ⟨_, course_of_wholeBatch v s (v.tagsRequest_unblamed _) _ batch g⟩⟩
  | url =>
      cases found
      exact ⟨_, rfl, v.purgePagesFrom_blind s batch, course_of_pages v s batch⟩
  | wildcardUrl => cases found
  | everything =>
      cases found
      exact ⟨_, rfl, wholeBatch_blind s _ _ batch, fun g =>
        ⟨_, course_of_wholeBatch v s v.siteRequest_unblamed _ batch g⟩⟩

end CachePurge.Vendor
