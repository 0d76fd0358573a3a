import CachePurge.Fleet.Purger
import CachePurge.Proofs.Fanout.Results
import CachePurge.Proofs.Ledger

/-!
What a purge tries at the edge: requests to addresses, some of which cannot be built or do not get
away, and the replies to the others. A fan-out gives a key success just when every try for it was
acknowledged and there was one.
-/

namespace CachePurge

/-- The status of a reply, also of one that breaks off inside its body. -/
def Http.Reply.status? : Reply → Option Nat
  | .silence => none
  | .response status _ | .brokenOff status => some status

namespace Fleet

/-- Whom a request is made for: some tags by their places in the list, the pages of a kind that
have an id, or the whole site. -/
inductive Aim where
  | tags (places : List Nat)
  | page (kind : Kind) (id : Uuid)
  | site
  deriving DecidableEq

def Aim.kind : Aim → Kind
  | .tags _ => .tag
  | .page kind _ => kind
  | .site => .everything

/-- Whether a request with this aim is made for the invalidation at a place. -/
def Aim.concerns (aim : Aim) (inv : Invalidation) (place : Nat) : Bool :=
  inv.kind = aim.kind &&
    match aim with
    | .tags places => places.contains place
    | .page _ id => inv.id = id
    | .site => true

/-- A request to an edge address, if it can be built. -/
structure Errand where
  aim : Aim
  address : String
  request : Except Fault Http.Request

/-- What goes onto the network, if anything does. -/
def Errand.message? (e : Errand) : Option Http.Message :=
  match e.request with
  | .error _ => none
  | .ok request => (Http.prepare true request).toOption

/-- An errand that was run, with what became of its message. -/
structure Try extends Errand where
  delivery : Option Http.Delivery

/-- Whether the request could be built and was answered with success. -/
def Try.isAcknowledged (t : Try) : Bool :=
  match t.request, t.delivery with
  | .ok _, some delivery => delivery.reply.status?.any Http.isSuccess
  | _, _ => false

end Fleet

open Fleet

variable {ε : Type}

/-- The surroundings go from one state to another while some tries are made, one after the other,
and the platform is asked for its settings in between. -/
inductive Surroundings.Undergoes (s : Surroundings ε) : ε → List Try → ε → Prop where
  | rest (e : ε) : Undergoes s e [] e
  | askAddresses {e e' : ε} {tries : List Try} :
      Undergoes s (s.edgeAddresses e).2 tries e' → Undergoes s e tries e'
  | askSite {e e' : ε} {tries : List Try} :
      Undergoes s (s.siteIdentifier e).2 tries e' → Undergoes s e tries e'
  | unsent {e e' : ε} {errand : Errand} {tries : List Try} :
      errand.message? = none → Undergoes s e tries e' → Undergoes s e (⟨errand, none⟩ :: tries) e'
  | sent {e e' : ε} {errand : Errand} {message : Http.Message} {tries : List Try} :
      errand.message? = some message → Undergoes s (s.deliver message e).2 tries e' →
      Undergoes s e (⟨errand, some (s.deliver message e).1⟩ :: tries) e'

/-- Addresses and site are answered the same, whatever has been tried since. -/
def Surroundings.Steady (s : Surroundings ε) (e : ε) (addresses : List String) (site : String) :
    Prop :=
  ∀ tries e', s.Undergoes e tries e' →
    (s.edgeAddresses e').1 = addresses ∧ (s.siteIdentifier e').1 = site

namespace Surroundings
variable {s : Surroundings ε}

theorem Undergoes.trans {e e' e'' : ε} {tries more : List Try} (first : s.Undergoes e tries e')
    (second : s.Undergoes e' more e'') : s.Undergoes e (tries ++ more) e'' := by
  induction first with
  | rest => exact second
  | askAddresses _ ih => exact .askAddresses (ih second)
  | askSite _ ih => exact .askSite (ih second)
  | unsent none _ ih => exact .unsent none (ih second)
  | sent some _ ih => exact .sent some (ih second)

theorem Steady.later {e e' : ε} {addresses : List String} {site : String} {tries : List Try}
    (steady : s.Steady e addresses site) (run : s.Undergoes e tries e') :
    s.Steady e' addresses site :=
  fun more e'' next => steady (tries ++ more) e'' (run.trans next)

theorem Steady.addresses {e : ε} {addresses : List String} {site : String}
    (steady : s.Steady e addresses site) : (s.edgeAddresses e).1 = addresses :=
  (steady [] e (.rest e)).1

theorem Steady.site {e : ε} {addresses : List String} {site : String}
    (steady : s.Steady e addresses site) : (s.siteIdentifier e).1 = site :=
  (steady [] e (.rest e)).2

end Surroundings

namespace Fleet

variable (s : Surroundings ε)

/-- A request that gets away reaches the network once, whatever it is answered. -/
theorem exchange_sent {request : Http.Request} {message : Http.Message}
    (prepared : Http.prepare true request = .ok message) (l : Ledger ε) :
    (exchange s (.ok request) l).2.outside = (s.deliver message l.outside).2 ∧
      (exchange s (.ok request) l).2.tally = l.tally ∧
      (exchange s (.ok request) l).1.2.isSuccess =
        (s.deliver message l.outside).1.reply.status?.any Http.isSuccess := by
  have asked : Ledger.ask (s.deliver message) l =
      ((s.deliver message l.outside).1, { l with outside := (s.deliver message l.outside).2 }) :=
    rfl
  simp only [exchange, Ledger.send, prepared, bind_apply, pure_apply, asked]
  cases (s.deliver message l.outside).1.reply with
  | silence => exact ⟨rfl, rfl, rfl⟩
  | response status _ | brokenOff status =>
      simp only [Http.receive, Http.Reply.status?, Option.any_some]
      cases Http.isSuccess status with
      | true => exact ⟨rfl, rfl, rfl⟩
      | false => exact ⟨rfl, rfl, rfl⟩

/-- One errand is one try, and no counter knows of it yet. -/
theorem exchange_try (errand : Errand) (l : Ledger ε) :
    ∃ t : Try, t.toErrand = errand ∧
      s.Undergoes l.outside [t] (exchange s errand.request l).2.outside ∧
      (exchange s errand.request l).1.2.isSuccess = t.isAcknowledged ∧
      (exchange s errand.request l).2.tally = l.tally := by
  obtain ⟨aim, address, request⟩ := errand
  cases request with
  | error fault =>
      exact ⟨⟨⟨aim, address, .error fault⟩, none⟩, rfl, .unsent rfl (.rest _), rfl, rfl⟩
  | ok request =>
      cases prepared : Http.prepare true request with
      | error fault =>
          have unsent : Errand.message? ⟨aim, address, .ok request⟩ = none := by
            simp only [Errand.message?, prepared, Except.toOption]
          have run : exchange s (.ok request) l =
              ((0, .failed (.client fault)),
                { l with trace := l.trace ++ [.request request none] }) := by
            simp only [exchange, Ledger.send, prepared]
            rfl
          refine ⟨⟨⟨aim, address, .ok request⟩, none⟩, rfl, ?_⟩
          rw [run]
          exact ⟨.unsent unsent (.rest _), rfl, rfl⟩
      | ok message =>
          have sent : Errand.message? ⟨aim, address, .ok request⟩ = some message := by
            simp only [Errand.message?, prepared, Except.toOption]
          obtain ⟨outside, tally, success⟩ := exchange_sent s prepared l
          refine ⟨⟨⟨aim, address, .ok request⟩, some (s.deliver message l.outside).1⟩, rfl, ?_, ?_,
            tally⟩
          · rw [outside]
            exact .sent sent (.rest _)
          · exact success

variable {κ : Type}

theorem attempt_apply (key : κ) (request : Except Fault Http.Request) (l : Ledger ε) :
    attempt s key request l =
      (⟨key, (exchange s request l).1.1, (exchange s request l).1.2⟩, (exchange s request l).2) :=
  rfl

/-- Errands under keys are tried one after the other, in their order. -/
theorem attempts_tries (keyed : List (κ × Errand)) (l : Ledger ε) :
    ∃ tried : List (κ × Try), tried.map (fun x => (x.1, x.2.toErrand)) = keyed ∧
      s.Undergoes l.outside (tried.map (·.2))
        (keyed.mapM (fun x => attempt s x.1 x.2.request) l).2.outside ∧
      (keyed.mapM (fun x => attempt s x.1 x.2.request) l).1.map
          (fun a => (a.key, a.outcome.isSuccess)) =
        tried.map fun x => (x.1, x.2.isAcknowledged) := by
  induction keyed generalizing l with
  | nil => exact ⟨[], rfl, .rest _, rfl⟩
  | cons x rest ih =>
      obtain ⟨key, errand⟩ := x
      obtain ⟨t, rfl, run, success, -⟩ := exchange_try s errand l
      obtain ⟨tried, planned, more, outcomes⟩ := ih (exchange s t.request l).2
      refine ⟨(key, t) :: tried, by rw [List.map_cons, planned], ?_⟩
      rw [mapM_cons_apply, attempt_apply]
      refine ⟨run.trans more, ?_⟩
      simp only [List.map_cons, outcomes, success]

/-- A fan-out tries all it is given and then counts and reports what came of it. -/
theorem fanOut_apply {concurrency : Nat} (within : concurrency ≤ Fanout.maxConcurrency)
    (label : κ → String) (requests : List (κ × Except Fault Http.Request)) (l : Ledger ε) :
    let attempted := requests.mapM (fun x => attempt s x.1 x.2) l
    let ended := Fanout.byEnd (Fanout.spans concurrency attempted.1) attempted.1
    fanOut s concurrency label requests l =
      (.ok (Fanout.results ended),
        { attempted.2 with
          tally := Fanout.count attempted.2.tally ended
          trace := attempted.2.trace ++
            (Fanout.failures ended).map fun x => .failed (label x.1) x.2 }) := by
  simp only [fanOut, Fanout.run, Nat.not_lt.mpr within, if_false, List.mapM_map, bind_apply,
    pure_apply, Function.comp_def, id]
  rfl

theorem fanOut_of_lt {concurrency : Nat} (beyond : Fanout.maxConcurrency < concurrency)
    (label : κ → String) (requests : List (κ × Except Fault Http.Request)) (l : Ledger ε) :
    fanOut s concurrency label requests l = (.error Fanout.tooManyPermits, l) := by
  simp only [fanOut, Fanout.run, beyond, if_true]
  rfl

/-- Success goes to the keys for which something was tried and all of it was acknowledged. -/
theorem fanOut_tries [BEq κ] [LawfulBEq κ] {concurrency : Nat}
    (within : concurrency ≤ Fanout.maxConcurrency) (label : κ → String)
    (keyed : List (κ × Errand)) (l : Ledger ε) :
    ∃ (tried : List (κ × Try)) (results : Fanout.Results κ) (l' : Ledger ε),
      fanOut s concurrency label (keyed.map fun x => (x.1, x.2.request)) l = (.ok results, l') ∧
      tried.map (fun x => (x.1, x.2.toErrand)) = keyed ∧
      s.Undergoes l.outside (tried.map (·.2)) l'.outside ∧
      ∀ k, results.succeeded k = true ↔ (∃ x ∈ tried, x.1 = k) ∧
        ∀ x ∈ tried, x.1 = k → x.2.isAcknowledged = true := by
  obtain ⟨tried, planned, run, outcomes⟩ := attempts_tries s keyed l
  have applied := fanOut_apply s within label (keyed.map fun x => (x.1, x.2.request)) l
  rw [List.mapM_map] at applied
  refine ⟨tried, _, _, applied, planned, run, fun k => ?_⟩
  have ended := (Fanout.byEnd_perm (Fanout.length_spans concurrency
    (keyed.mapM (fun x => attempt s x.1 x.2.request) l).1)).map
      fun a => (a.key, a.outcome.isSuccess)
  rw [outcomes, ← Fanout.results_outcomes] at ended
  exact Fanout.Results.succeeded_iff_of_perm ended k

end Fleet
end CachePurge
