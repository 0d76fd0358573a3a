import CachePurge.Proofs.Rehearsal
import CachePurge.Proofs.Tally
import CachePurge.Proofs.Vendor.Choice
import CachePurge.Proofs.Vendor.Outcome
import CachePurge.Proofs.Vendor.Settled

/-!
How the vendor's purger keeps its books. Whatever it does between two ledgers, the counters of
requests grow by what was exchanged and those of invalidations by the states that were counted. Both
add up along a program, and over a mixed dispatch kind by kind.
-/

namespace CachePurge

open Vendor (Exchange Forwarder GatedLedger Backend Operation)

namespace Surroundings
variable {ε : Type}

/-- The surroundings go from one state to another while some exchanges are made, one after the
other. In between the clock is read, or what the platform has to say of the vendor. -/
inductive Deals (s : Surroundings ε) : ε → List Exchange → ε → Prop where
  | rest (e : ε) : Deals s e [] e
  | look {e e' : ε} {xs : List Exchange} : Deals s (s.now e).2 xs e' → Deals s e xs e'
  | read {e e' : ε} {xs : List Exchange} : Deals s (Vendor.reading s e).2 xs e' → Deals s e xs e'
  | trade {e e' : ε} {xs : List Exchange} (request : Http.Request) :
      Deals s (s.trade request e).2 xs e' → Deals s e ((s.trade request e).1 :: xs) e'

variable {s : Surroundings ε}

theorem Deals.trans {e e' e'' : ε} {xs more : List Exchange} (first : s.Deals e xs e')
    (second : s.Deals e' more e'') : s.Deals e (xs ++ more) e'' := by
  induction first with
  | rest => exact second
  | look _ ih => exact .look (ih second)
  | read _ ih => exact .read (ih second)
  | trade request _ ih => exact .trade request (ih second)

theorem Trades.deals {e e' : ε} {xs : List Exchange} (run : s.Trades e xs e') :
    s.Deals e xs e' := by
  induction run with
  | rest e => exact .rest e
  | look _ ih => exact .look ih
  | trade request _ ih => exact .trade request ih

end Surroundings

namespace Vendor
variable {ε : Type}

/-- One ledger becomes another by some exchanges and by counting invalidations in some states. -/
structure Books (s : Surroundings ε) (l : Ledger ε) (xs : List Exchange) (states : List State)
    (l' : Ledger ε) : Prop where
  deals : s.Deals l.outside xs l'.outside
  listed : l'.requests = l.requests ++ xs.map (·.request)
  counted : l.tally.Gains states l'.tally
  sent : l'.tally.requestsSent = l.tally.requestsSent + .ofNat xs.length
  failed : l'.tally.requestsFailed =
    l.tally.requestsFailed + .ofNat (xs.countP fun x => decide ¬x.Answers)

namespace Books
variable {s : Surroundings ε} {l l' l'' : Ledger ε} {xs more : List Exchange}
  {states others : List State}

theorem refl (s : Surroundings ε) (l : Ledger ε) : Books s l [] [] l :=
  ⟨.rest _, (List.append_nil _).symm, .refl _, (UInt64.add_zero _).symm, (UInt64.add_zero _).symm⟩

theorem trans (first : Books s l xs states l') (second : Books s l' more others l'') :
    Books s l (xs ++ more) (states ++ others) l'' where
  deals := first.deals.trans second.deals
  listed := by rw [second.listed, first.listed, List.map_append, List.append_assoc]
  counted := first.counted.trans second.counted
  sent := by
    rw [second.sent, first.sent, List.length_append, UInt64.ofNat_add, UInt64.add_assoc]
  failed := by
    rw [second.failed, first.failed, List.countP_append, UInt64.ofNat_add, UInt64.add_assoc]

theorem perm (books : Books s l xs states l') (same : states.Perm others) :
    Books s l xs others l' :=
  { books with counted := books.counted.perm same }

/-- What is neither an exchange nor counted comes before or after. -/
theorem after (books : Books s l' xs states l'') (quiet : Books s l [] [] l') :
    Books s l xs states l'' := quiet.trans books

theorem before (books : Books s l xs states l') (quiet : Books s l' [] [] l'') :
    Books s l xs states l'' := by
  have both := books.trans quiet
  rwa [List.append_nil, List.append_nil] at both

end Books

section Ledger
variable (s : Surroundings ε) (l : Ledger ε)

theorem note_books {event : Event} (silent : event.request? = none) :
    Books s l [] [] (Ledger.note event l).2 := by
  refine { Books.refl s l with listed := ?_ }
  rw [Ledger.requests_note, silent]
  rfl

theorem count_books (success : Bool) (n : Nat) :
    Books s l [] (List.replicate n (.ofSuccess success)) (Ledger.count success n l).2 := by
  refine { Books.refl s l with
    counted := l.tally.outcome_gains success n, sent := ?_, failed := ?_ }
  all_goals cases success <;> exact (UInt64.add_zero _).symm

end Ledger

section Operations
variable (v : Backend) (s : Surroundings ε)

theorem exchange?_books {request : Except Fault Http.Request} (unblamed : Unblamed request)
    (g : GatedLedger ε) :
    Books s g.ledger (Fastly.tried s request g.ledger.outside) []
      (Fastly.exchange? s request g).2.ledger := by
  obtain ⟨-, trades, listed, -, -⟩ := Fastly.exchanged s unblamed g
  cases request with
  | error fault => exact Books.refl s g.ledger
  | ok request =>
      obtain ⟨latency, counted⟩ := Fastly.exchange_tally s request g
      rw [← Fastly.exchange?] at counted
      rw [Fastly.tried] at trades listed ⊢
      generalize (s.trade request g.ledger.outside).1 = x at trades listed counted ⊢
      refine ⟨trades.deals, listed, ?_, ?_, ?_⟩
      · rw [counted]
        exact Tally.request_gains _ _ _
      · rw [counted]
        rfl
      · rw [counted, Tally.request_failed, List.countP_singleton]
        by_cases answers : x.Answers
        · simp [Exchange.isOk_outcome.mpr answers, answers]
        · simp [mt Exchange.isOk_outcome.mp answers, answers]

theorem looked_books (g : GatedLedger ε) : Books s g.ledger [] [] (g.looked s).ledger :=
  { Books.refl s g.ledger with deals := .look (.rest _) }

theorem purgePagesFrom_books (batch : List Invalidation) (g : GatedLedger ε) :
    ∃ xs, Books s g.ledger xs [] (v.purgePagesFrom s batch g).2.ledger := by
  induction batch generalizing g with
  | nil => exact ⟨[], .refl s g.ledger⟩
  | cons inv rest ih =>
      have first := exchange?_books s (v.pageRequest_unblamed inv.expression) g
      by_cases unblamed : Unblamed (Fastly.exchange? s (v.pageRequest inv.expression) g).1
      · rw [purgePagesFrom_unblamed v s rest unblamed]
        obtain ⟨xs, later⟩ := ih (Fastly.exchange? s (v.pageRequest inv.expression) g).2
        exact ⟨_, first.trans later⟩
      · obtain ⟨message, blamed⟩ := not_forall_not.mp unblamed
        rw [purgePagesFrom_blamed v s rest blamed]
        exact ⟨_, first⟩

theorem wholeBatch_books {request : Except Fault Http.Request} (unblamed : Unblamed request)
    (accepts : Json → Bool) (batch : List Invalidation) (g : GatedLedger ε) :
    ∃ xs, Books s g.ledger xs [] (wholeBatch s request accepts batch g).2.ledger := by
  rw [wholeBatch]
  split
  · exact ⟨[], .refl s g.ledger⟩
  · exact ⟨_, exchange?_books s unblamed g⟩

theorem unlessClosed_books {batch : List Invalidation}
    {body : StateM (GatedLedger ε) (List Invalidation × Option Fault)}
    (books : ∀ g, ∃ xs, Books s g.ledger xs [] (body g).2.ledger) (g : GatedLedger ε) :
    ∃ xs, Books s g.ledger xs [] (Fastly.unlessClosed s batch body g).2.ledger := by
  cases health : g.gate.health (s.clock g.ledger.outside) with
  | some message =>
      rw [unlessClosed_closed s batch g body health]
      exact ⟨[], looked_books s g⟩
  | none =>
      rw [unlessClosed_open s batch g body health]
      obtain ⟨xs, later⟩ := books (g.looked s)
      exact ⟨xs, later.after (looked_books s g)⟩

theorem operation_books {kind : Kind} {operation : Operation ε}
    (found : operation? kind = some operation) (batch : List Invalidation) (g : GatedLedger ε) :
    ∃ xs, Books s g.ledger xs [] (operation v s batch g).2.ledger := by
  cases kind with
  | tag =>
      cases found
      exact unlessClosed_books s (wholeBatch_books s (v.tagsRequest_unblamed _) _ batch) g
  | url =>
      cases found
      exact unlessClosed_books s (purgePagesFrom_books v s batch) g
  | wildcardUrl => cases found
  | everything =>
      cases found
      exact unlessClosed_books s (wholeBatch_books s v.siteRequest_unblamed _ batch) g

end Operations

theorem resolve_books (s : Surroundings ε) (f : Forwarder ε) :
    Books s f.gated.ledger [] [] (resolve s f).2.gated.ledger := by
  cases chosen : f.backend with
  | some v =>
      rw [resolve_chosen s chosen]
      exact .refl s f.gated.ledger
  | none =>
      rw [resolve_unchosen chosen]
      exact { Books.refl s f.gated.ledger with deals := .read (.rest _) }

/-- States that are terminal are successes and failures, as many as these are. -/
theorem perm_of_isTerminal {states : List State} (terminal : ∀ state ∈ states, state.isTerminal) :
    (List.replicate (states.count .succeeded) State.succeeded ++
      List.replicate (states.length - states.count .succeeded) State.failed).Perm states := by
  induction states with
  | nil => exact .refl _
  | cons state rest ih =>
      obtain ⟨last, terminal⟩ := List.forall_mem_cons.mp terminal
      have later := ih terminal
      have below := List.count_le_length (a := State.succeeded) (l := rest)
      cases state with
      | new | processing => cases last
      | succeeded =>
          rw [List.count_cons_self, List.length_cons, Nat.add_sub_add_right]
          exact later.cons _
      | failed =>
          rw [List.count_cons_of_ne (by decide), List.length_cons, Nat.succ_sub below,
            List.replicate_succ]
          exact List.perm_middle.trans (later.cons _)

theorem countSettled_books (s : Surroundings ε) {batch : List Invalidation}
    (terminal : ∀ inv ∈ batch, inv.isTerminal) (f : Forwarder ε) :
    Books s f.gated.ledger [] (batch.map (·.state)) (countSettled batch f).2.gated.ledger := by
  have settled := perm_of_isTerminal (List.forall_mem_map.mpr terminal)
  have succeeded : (batch.filter fun inv => inv.state = .succeeded).length =
      (batch.map (·.state)).count .succeeded := by
    rw [List.count, List.countP_map, List.countP_eq_length_filter]
    rfl
  rw [List.length_map, ← succeeded] at settled
  exact ((count_books s _ true _).trans (count_books s _ false _)).perm settled

section Handler
variable (s : Surroundings ε) {kind : Kind} {operation : Operation ε}
  (found : operation? kind = some operation) {batch : List Invalidation}
  (unsettled : ∀ inv ∈ batch, inv.isTerminal = false)
include found unsettled

theorem forward_books (f : Forwarder ε) :
    ∃ xs, Books s f.gated.ledger xs ((forward s kind operation batch f).1.1.map (·.state))
      (forward s kind operation batch f).2.gated.ledger := by
  have resolved := resolve_books s f
  simp only [forward, bind_apply]
  generalize resolve s f = chosen at resolved
  obtain ⟨backend, f'⟩ := chosen
  cases backend with
  | none =>
      have failed : (batch.map Invalidation.fail).map (·.state) =
          List.replicate batch.length (.ofSuccess false) := by
        rw [List.map_map, List.eq_replicate_iff, List.length_map]
        refine ⟨rfl, List.forall_mem_map.mpr fun inv among => ?_⟩
        exact State.advance_failed (unsettled inv among)
      refine ⟨[], Books.after ?_ resolved⟩
      simp only [bind_apply, pure_apply, failed]
      exact count_books s _ false batch.length
  | some v =>
      obtain ⟨xs, operated⟩ := operation_books v s found (batch.map Invalidation.process) f'.gated
      obtain ⟨-, settled⟩ := operation_operated v s found (batch.map Invalidation.process) f'.gated
      simp only [bind_apply, Forwarder.onGated]
      generalize operation v s (batch.map Invalidation.process) f'.gated = run at operated settled
      obtain ⟨⟨left, fault⟩, g⟩ := run
      refine ⟨xs, Books.after ?_ resolved⟩
      cases fault with
      | none =>
          have counted := countSettled_books s (settled rfl) ⟨g, f'.backend⟩
          have both := operated.trans counted
          rw [List.append_nil] at both
          exact both
      | some fault =>
          have noted :
              Books s g.ledger [] [] (Ledger.noteFailed kind.handlerName fault g.ledger).2 :=
            note_books s g.ledger rfl
          have counted := countSettled_books s
            (List.forall_mem_map.mpr fun inv _ => Invalidation.isTerminal_fail inv :
              ∀ inv ∈ left.map Invalidation.fail, inv.isTerminal)
            (Forwarder.onLedger (Ledger.noteFailed kind.handlerName fault) ⟨g, f'.backend⟩).2
          have both := (operated.before noted).trans counted
          rw [List.append_nil] at both
          exact both

theorem call_books (f : Forwarder ε) :
    ∃ xs, Books s f.gated.ledger xs (((purger s).call kind batch f).1.1.map (·.state))
      ((purger s).call kind batch f).2.gated.ledger := by
  have handled := handle_forward (s := s) found batch f
  obtain ⟨xs, books⟩ := forward_books s found unsettled ⟨entered kind f, f.backend⟩
  obtain ⟨moved, -⟩ := forward_handled s found batch ⟨entered kind f, f.backend⟩
  generalize forward s kind operation batch ⟨entered kind f, f.backend⟩ = run at handled books moved
  rw [Purger.call_eq handled, Invalidation.advanceEach_of_moved moved]
  have entry : Books s f.gated.ledger [] [] (entered kind f).ledger :=
    note_books s f.gated.ledger rfl
  have exit : Books s run.2.gated.ledger [] []
      (Forwarder.onLedger (Ledger.note (.exit kind)) run.2).2.gated.ledger :=
    note_books s run.2.gated.ledger rfl
  exact ⟨xs, (books.after entry).before exit⟩

end Handler

def Forwarder.tally (f : Forwarder ε) : Tally := f.gated.ledger.tally

section Dispatch
variable (s : Surroundings ε)

/-- The dispatch of invalidations of one kind, if there are any. -/
theorem batch_books {kind : Kind} {batch : List Invalidation}
    (own : ∀ inv ∈ batch, inv.kind = kind)
    (supported : ∀ inv ∈ batch, inv.kind ∈ (purger s).supported)
    (unsettled : ∀ inv ∈ batch, inv.isTerminal = false) (f : Forwarder ε) :
    (∃ xs, Books s f.gated.ledger xs (((purger s).dispatch batch f).1.1.map (·.state))
      ((purger s).dispatch batch f).2.gated.ledger) ∧
    ∀ panic, ((purger s).dispatch batch f).1.2 ≠ .panicked panic := by
  by_cases none : batch = []
  · subst none
    rw [Purger.dispatch_nil]
    exact ⟨⟨[], .refl s f.gated.ledger⟩, nofun⟩
  · obtain ⟨inv, among⟩ := List.exists_mem_of_ne_nil batch none
    have listed : kind ∈ (purger s).supported := own inv among ▸ supported inv among
    obtain ⟨operation, found⟩ := operation_of_supported listed
    rw [Purger.dispatch_own own (purger_handles s).settles listed none]
    exact ⟨call_books s found unsettled f, purger_returns s listed batch f⟩

theorem dispatchEach_books {batches : List (List Invalidation)}
    (own : ∀ batch ∈ batches, ∃ kind, ∀ inv ∈ batch, inv.kind = kind)
    (supported : ∀ batch ∈ batches, ∀ inv ∈ batch, inv.kind ∈ (purger s).supported)
    (unsettled : ∀ batch ∈ batches, ∀ inv ∈ batch, inv.isTerminal = false)
    (first : Option Fault) (f : Forwarder ε) :
    (∃ xs, Books s f.gated.ledger xs
      (((purger s).dispatchEach first batches f).1.1.flatten.map (·.state))
      ((purger s).dispatchEach first batches f).2.gated.ledger) ∧
    ∀ panic, ((purger s).dispatchEach first batches f).1.2 ≠ .panicked panic := by
  induction batches generalizing first f with
  | nil => exact ⟨⟨[], .refl s f.gated.ledger⟩, by cases first <;> nofun⟩
  | cons batch rest ih =>
      obtain ⟨⟨kind, own⟩, owns⟩ := List.forall_mem_cons.mp own
      obtain ⟨supported, listed⟩ := List.forall_mem_cons.mp supported
      obtain ⟨unsettled, open_⟩ := List.forall_mem_cons.mp unsettled
      obtain ⟨⟨xs, books⟩, returned⟩ := batch_books s own supported unsettled f
      rw [Purger.dispatchEach, bind_apply]
      generalize (purger s).dispatch batch f = run at books returned
      obtain ⟨⟨left, ending⟩, f'⟩ := run
      cases ending with
      | done =>
          obtain ⟨⟨more, later⟩, returned⟩ := ih owns listed open_ first f'
          have both := books.trans later
          rw [← List.map_append, ← List.flatten_cons] at both
          exact ⟨⟨_, both⟩, returned⟩
      | failed fault =>
          obtain ⟨⟨more, later⟩, returned⟩ := ih owns listed open_ (first <|> some fault) f'
          have both := books.trans later
          rw [← List.map_append, ← List.flatten_cons] at both
          exact ⟨⟨_, both⟩, returned⟩
      | panicked panic => exact absurd rfl (returned panic)

theorem dispatch_books {invs : List Invalidation}
    (supported : ∀ inv ∈ invs, inv.kind ∈ (purger s).supported)
    (unsettled : ∀ inv ∈ invs, inv.isTerminal = false) (f : Forwarder ε) :
    (∃ xs, Books s f.gated.ledger xs (((purger s).dispatch invs f).1.1.map (·.state))
      ((purger s).dispatch invs f).2.gated.ledger) ∧
    ∀ panic, ((purger s).dispatch invs f).1.2 ≠ .panicked panic := by
  have within (P : Invalidation → Prop) (all : ∀ inv ∈ invs, P inv) :
      ∀ batch ∈ Kind.all.map fun kind => Invalidation.ofKind kind invs, ∀ inv ∈ batch, P inv :=
    List.forall_mem_map.mpr fun kind _ inv among => all inv (List.mem_filter.mp among).1
  have own : ∀ batch ∈ Kind.all.map fun kind => Invalidation.ofKind kind invs,
      ∃ kind, ∀ inv ∈ batch, inv.kind = kind :=
    List.forall_mem_map.mpr fun kind _ =>
      ⟨kind, fun inv among => of_decide_eq_true (List.mem_filter.mp among).2⟩
  obtain ⟨⟨xs, books⟩, returned⟩ :=
    dispatchEach_books s own (within _ supported) (within _ unsettled) none f
  rw [Purger.dispatch_splits (purger_handles s).settles supported] at books returned
  exact ⟨⟨xs, books.perm ((Invalidation.flatten_ofKind_perm _).map _)⟩, returned⟩

/-- For any purger of the vendor, whether its backend is chosen or cannot be and whether its gate is
open or closed: a dispatch of invalidations that are not settled yet leaves all of them settled. It
counts as succeeded and as failed just what ends so, as sent each request that was given to the
client, and as failed each of these whose response is not JSON of success or is a fault of the
service. -/
theorem dispatch_balances {invs : List Invalidation}
    (supported : ∀ inv ∈ invs, inv.kind ∈ (purger s).supported)
    (unsettled : ∀ inv ∈ invs, inv.isTerminal = false) (f : Forwarder ε) :
    let run := (purger s).dispatch invs f
    let succeeded := run.1.1.countP fun inv => inv.state = .succeeded
    let failed := run.1.1.countP fun inv => inv.state = .failed
    (∀ panic, run.1.2 ≠ .panicked panic) ∧ Invalidation.Moved invs run.1.1 ∧
    succeeded + failed = invs.length ∧
    run.2.tally.succeeded = f.tally.succeeded + .ofNat succeeded ∧
    run.2.tally.failed = f.tally.failed + .ofNat failed ∧
    ∃ xs, s.Deals f.outside xs run.2.outside ∧ run.2.requests = f.requests ++ xs.map (·.request) ∧
      run.2.tally.requestsSent = f.tally.requestsSent + .ofNat xs.length ∧
      run.2.tally.requestsFailed =
        f.tally.requestsFailed + .ofNat (xs.countP fun x => ¬x.Answers) := by
  intro run succeeded failed
  obtain ⟨⟨xs, deals, listed, counted, sent, lost⟩, returned⟩ :=
    dispatch_books s supported unsettled f
  have moved := (purger s).dispatch_moved invs f
  have settled := Invalidation.length_of_isTerminal (Purger.dispatch_terminal returned)
  have count (state : State) : (run.1.1.map (·.state)).count state =
      run.1.1.countP fun inv => inv.state = state := by
    rw [List.count, List.countP_map]
    rfl
  have gained := counted.succeeded
  have missed := counted.failed
  rw [count .succeeded] at gained
  rw [count .failed] at missed
  exact ⟨returned, moved, settled.trans moved.length_eq.symm, gained, missed, xs, deals, listed,
    sent, lost⟩

end Dispatch

/-- In a rehearsal the platform's answers change nothing. -/
theorem trades_of_deals {r r' : Rehearsal} {xs : List Exchange}
    (deals : Rehearsal.surroundings.Deals r xs r') : Rehearsal.surroundings.Trades r xs r' := by
  induction deals with
  | rest r => exact .rest r
  | look _ ih => exact .look ih
  | read _ ih => exact ih
  | trade request _ ih => exact .trade request ih

/-- A tag is acknowledged by an object, of two pages one is acknowledged and the other refused, and
the answer about the site breaks off. -/
theorem dispatch_balances_answered :
    let api : Url :=
      ⟨"https", some ⟨"", none, some (.domain "api.test"), none⟩, .rooted [""], none, none⟩
    let rules : List Http.Rule :=
      [⟨none, some "https://api.test/service/service/purge", none, none,
          .response 200 (utf8 "\x7b\x7d")⟩,
        ⟨none, some "https://example.com/a", none, none,
          .response 200 (utf8 "\x7b\"status\":\"ok\"\x7d")⟩,
        ⟨none, some "https://example.com/b", none, none, .response 500 []⟩,
        ⟨some "POST", none, none, none, .brokenOff 200⟩]
    let outside : Rehearsal := ⟨[], "site-a", none, Rehearsal.opening, rules, [], true⟩
    let f := { Forwarder.start outside with backend := some ⟨api, "service", "token", "site-a"⟩ }
    let invs := [Invalidation.ofId 1 .url "https://example.com/a", .ofId 2 .everything "",
      .ofId 3 .tag "a", .ofId 4 .url "https://example.com/b"]
    ∃ run, (purger Rehearsal.surroundings).dispatch invs f = run ∧
      run.1.1.map (·.state) = [.succeeded, .failed, .succeeded, .failed] ∧
      run.2.tally.succeeded = 2 ∧ run.2.tally.failed = 2 ∧ run.2.tally.requestsSent = 4 ∧
      run.2.tally.requestsFailed = 2 := by
  intro api rules outside f invs
  have supported : ∀ inv ∈ invs, inv.kind ∈ (purger Rehearsal.surroundings).supported := by decide
  obtain ⟨-, -, -, succeeded, failed, xs, deals, listed, sent, lost⟩ :=
    dispatch_balances Rehearsal.surroundings supported (by decide) f
  have untiring : outside.network.IsUntiring := by decide
  have known := Rehearsal.exchange_untiring untiring (trades_of_deals deals)
  have nothing : f.requests = [] := rfl
  rw [nothing, List.nil_append] at listed
  have exchanged : xs = (xs.map (·.request)).map fun request =>
      (Rehearsal.surroundings.trade request outside).1 := by
    rw [List.map_map]
    exact ((List.map_congr_left fun x among => (known x among).symm).trans (List.map_id xs)).symm
  rw [← listed] at exchanged
  refine ⟨_, rfl, ?_, ?_, ?_, ?_, ?_⟩
  · decide +kernel
  · rw [succeeded]
    decide +kernel
  · rw [failed]
    decide +kernel
  · rw [sent, exchanged]
    decide +kernel
  · rw [lost, exchanged]
    decide +kernel

end Vendor
end CachePurge
