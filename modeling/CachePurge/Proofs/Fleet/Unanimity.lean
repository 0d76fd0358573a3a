import CachePurge.Proofs.Fleet.Handlers
import CachePurge.Proofs.Rehearsal

/-!
The verdict of a whole dispatch. Handlers of different kinds do not touch each other's invalidations
nor send anything that concerns them, so each invalidation comes out by the tries of its own kind.
-/

namespace CachePurge.Fleet

variable {ε : Type} {s : Surroundings ε} {pace : Pace} {addresses : List String} {site : String}

theorem purger_handle_settles {l : Ledger ε} (steady : s.Steady l.outside addresses site)
    (within : pace.concurrency ≤ Fanout.maxConcurrency) {kind : Kind} {batch : List Placed}
    (apart : batch.Pairwise fun x y => x.2 ≠ y.2) (own : ∀ x ∈ batch, x.1.kind = kind)
    (unsettled : ∀ x ∈ batch, x.1.isTerminal = false) :
    ∃ tries : List Try,
      tries.map (·.toErrand) = batchErrands pace site addresses kind batch ∧
      s.Undergoes l.outside tries ((purger s pace).handle kind (batch.map (·.1)) l).2.outside ∧
      ((purger s pace).handle kind (batch.map (·.1)) l).1 =
        (batch.map fun x => State.ofSuccess (verdict addresses tries x), .done) := by
  obtain ⟨tries, planned, undergone, answer⟩ :=
    handle_settles pace (l := (Ledger.note (.enter kind) l).2) steady within apart own
      unsettled
  refine ⟨tries, planned, undergone, ?_⟩
  have entered : ((purger s pace).handle kind (batch.map (·.1)) l).1 =
      ((handle s pace kind (batch.map (·.1)) (Ledger.note (.enter kind) l).2).1.1.map (·.state),
        (handle s pace kind (batch.map (·.1)) (Ledger.note (.enter kind) l).2).1.2) := rfl
  rw [entered, answer, List.map_map]
  refine congrArg (·, Ending.done) (List.map_congr_left fun x inside => ?_)
  exact State.advance_ofSuccess (unsettled x inside) _

/-- The invalidations of a kind that has been handled, among the others as they were. -/
def settleKind (kind : Kind) (addresses : List String) (tries : List Try) (x : Placed) : Placed :=
  (if x.1.kind = kind then x.1.settle (verdict addresses tries x) else x.1, x.2)

theorem settleKind_kind (kind : Kind) (tries : List Try) (x : Placed) :
    (settleKind kind addresses tries x).1.kind = x.1.kind := by
  rw [settleKind]
  split <;> rfl

theorem ofKind_map_settleKind {kind other : Kind} (differ : other ≠ kind) (tries : List Try)
    (placed : List Placed) :
    ofKind other (placed.map (settleKind kind addresses tries)) = ofKind other placed := by
  rw [ofKind, ofKind, List.filter_map]
  simp only [Function.comp_def, settleKind_kind]
  refine (List.map_congr_left fun x inside => ?_).trans (List.map_id _)
  have same : x.1.kind = other := of_decide_eq_true (List.mem_filter.mp inside).2
  rw [settleKind, if_neg (same ▸ differ)]
  rfl

theorem advanceEach_settleKind (kind : Kind) (tries : List Try) (placed : List Placed) :
    Invalidation.advanceEach (fun inv => inv.kind = kind) (placed.map (·.1))
        ((ofKind kind placed).map fun x => .ofSuccess (verdict addresses tries x)) =
      (placed.map (settleKind kind addresses tries)).map (·.1) := by
  rw [ofKind, Invalidation.advanceEach_map (fun inv => inv.kind = kind), List.map_map]
  refine List.map_congr_left fun x _ => ?_
  simp only [settleKind, Function.comp_apply, decide_eq_true_eq]
  rfl

theorem unsettled_settleKind {kind : Kind} {rest : List Kind} (fresh : kind ∉ rest)
    {placed : List Placed}
    (unsettled : ∀ x ∈ placed, x.1.isTerminal = decide (x.1.kind ∉ kind :: rest))
    (tries : List Try) :
    ∀ x ∈ placed.map (settleKind kind addresses tries),
      x.1.isTerminal = decide (x.1.kind ∉ rest) := by
  intro x inside
  obtain ⟨y, member, rfl⟩ := List.mem_map.mp inside
  have before := unsettled y member
  by_cases same : y.1.kind = kind
  · simp only [same, List.mem_cons_self, not_true_eq_false, decide_false] at before
    rw [settleKind_kind, settleKind, if_pos same, same, decide_eq_true fresh]
    rw [Invalidation.isTerminal, Invalidation.settle, Invalidation.advance,
      State.advance_ofSuccess before]
    exact State.isTerminal_ofSuccess _
  · simp only [List.mem_cons, same, false_or] at before
    rw [settleKind_kind, settleKind, if_neg same, before]

/-- The verdict on an invalidation takes in the tries of its own kind only, early or late. -/
theorem settleKind_then {kind : Kind} {rest : List Kind} (fresh : kind ∉ rest)
    {tries more : List Try} (first : ∀ t ∈ tries, t.aim.kind = kind)
    (later : ∀ t ∈ more, t.aim.kind ∈ rest) (x : Placed) :
    (if (settleKind kind addresses tries x).1.kind ∈ rest then
        (settleKind kind addresses tries x).1.settle
          (verdict addresses more (settleKind kind addresses tries x))
      else (settleKind kind addresses tries x).1) =
      if x.1.kind ∈ kind :: rest then x.1.settle (verdict addresses (tries ++ more) x)
      else x.1 := by
  rw [settleKind_kind]
  by_cases same : x.1.kind = kind
  · have others : ∀ t ∈ more, t.aim.concerns x.1 x.2 = false := by
      intro t inside
      refine concerns_of_kind_ne (fun eq => fresh ?_) _
      rw [← same, eq]
      exact later t inside
    rw [if_neg (same ▸ fresh), if_pos (by rw [same]; exact List.mem_cons_self),
      verdict_append_left others, settleKind, if_pos same]
  · have others : ∀ t ∈ tries, t.aim.concerns x.1 x.2 = false :=
      fun t inside => concerns_of_kind_ne (fun eq => same (eq.trans (first t inside))) _
    have still : settleKind kind addresses tries x = x := by
      rw [settleKind, if_neg same]
    simp only [still, List.mem_cons, same, false_or, verdict_append_right others]

/-- Kinds that are left to handle are settled by what is tried for them, and the others stay. -/
theorem dispatchKinds_settles {kinds : List Kind} (distinct : kinds.Nodup)
    (within : pace.concurrency ≤ Fanout.maxConcurrency) {placed : List Placed}
    (apart : placed.Pairwise fun x y => x.2 ≠ y.2)
    (unsettled : ∀ x ∈ placed, x.1.isTerminal = decide (x.1.kind ∉ kinds)) {l : Ledger ε}
    (steady : s.Steady l.outside addresses site) :
    ∃ tries : List Try,
      tries.map (·.toErrand) = errandsOf pace site addresses kinds placed ∧
      s.Undergoes l.outside tries
        ((purger s pace).dispatchKinds kinds none (placed.map (·.1)) l).2.outside ∧
      ((purger s pace).dispatchKinds kinds none (placed.map (·.1)) l).1 =
        (placed.map fun x =>
          if x.1.kind ∈ kinds then x.1.settle (verdict addresses tries x) else x.1, .done) := by
  induction kinds generalizing placed l with
  | nil =>
      refine ⟨[], rfl, .rest _, congrArg (·, Ending.done) ?_⟩
      simp only [List.not_mem_nil, if_false]
      refine Invalidation.map_fail_of_isTerminal fun inv inside => ?_
      obtain ⟨x, member, rfl⟩ := List.mem_map.mp inside
      rw [unsettled x member, decide_eq_true List.not_mem_nil]
  | cons kind rest ih =>
      obtain ⟨fresh, distinct⟩ := List.nodup_cons.mp distinct
      have batch : (placed.map (·.1)).filter (fun inv => decide (inv.kind = kind)) =
          (ofKind kind placed).map (·.1) := List.filter_map
      simp only [Purger.dispatchKinds, batch, List.isEmpty_map]
      cases none : (ofKind kind placed).isEmpty with
      | true =>
          have absent : ∀ x ∈ placed, x.1.kind ≠ kind := by
            rw [List.isEmpty_iff, ofKind, List.filter_eq_nil_iff] at none
            exact fun x inside same => none x inside (decide_eq_true same)
          have unsettled' : ∀ x ∈ placed, x.1.isTerminal = decide (x.1.kind ∉ rest) := by
            intro x inside
            rw [unsettled x inside]
            simp only [List.mem_cons, absent x inside, false_or]
          obtain ⟨tries, planned, undergone, answer⟩ := ih distinct apart unsettled' steady
          refine ⟨tries, ?_, undergone, answer.trans (congrArg (·, Ending.done) ?_)⟩
          · rw [planned, errandsOf, errandsOf, List.flatMap_cons, none, if_pos rfl, List.nil_append]
          · refine List.map_congr_left fun x inside => ?_
            simp only [List.mem_cons, absent x inside, false_or]
      | false =>
          rw [if_neg Bool.false_ne_true]
          have own : ∀ x ∈ ofKind kind placed, x.1.kind = kind :=
            fun x inside => of_decide_eq_true (List.mem_filter.mp inside).2
          have pending : ∀ x ∈ ofKind kind placed, x.1.isTerminal = false := by
            intro x inside
            rw [unsettled x (List.mem_filter.mp inside).1, own x inside]
            simp only [List.mem_cons_self, not_true_eq_false, decide_false]
          have apart' : (ofKind kind placed).Pairwise fun x y => x.2 ≠ y.2 := apart.filter _
          obtain ⟨tries, planned, undergone, answer⟩ :=
            purger_handle_settles steady within apart' own pending
          simp only [bind_apply]
          rw [answer, advanceEach_settleKind]
          have apart'' : (placed.map (settleKind kind addresses tries)).Pairwise
              fun x y => x.2 ≠ y.2 := List.pairwise_map.mpr apart
          obtain ⟨more, planned', undergone', answer'⟩ :=
            ih distinct apart'' (unsettled_settleKind fresh unsettled tries)
              (steady.later undergone)
          refine ⟨tries ++ more, ?_, undergone.trans undergone', answer'.trans ?_⟩
          · rw [List.map_append, planned, planned', errandsOf, errandsOf, List.flatMap_cons, none,
              if_neg Bool.false_ne_true]
            refine congrArg _ (List.flatMap_congr fun other among => ?_)
            have differ : other ≠ kind := fun same => fresh (same ▸ among)
            rw [ofKind_map_settleKind differ]
          · rw [List.map_map]
            refine congrArg (·, Ending.done) (List.map_congr_left fun x _ => ?_)
            refine settleKind_then fresh (fun t inside => ?_) (fun t inside => ?_) x
            · exact kind_of_mem_batchErrands (planned ▸ List.mem_map_of_mem inside)
            · exact kind_of_mem_errandsOf (planned' ▸ List.mem_map_of_mem inside)

/-- The verdict on an invalidation, once all that is planned was tried, node by node. -/
theorem verdict_eachNode {invs : List Invalidation} {tries : List Try}
    (planned : tries.map (·.toErrand) = errands pace site addresses invs) {i : Nat}
    {inv : Invalidation} (at_i : invs[i]? = some inv) :
    verdict addresses tries (inv, i) = true ↔
      isAdmissible inv = true ∧ addresses ≠ [] ∧ ∀ address ∈ addresses,
        (∃ t ∈ tries, t.address = address ∧ t.aim.concerns inv i = true) ∧
        ∀ t ∈ tries, t.address = address → t.aim.concerns inv i = true →
          t.isAcknowledged = true := by
  rw [verdict_iff]
  refine and_congr_right fun fit => and_congr_right fun _ => ?_
  constructor
  · intro all address among
    refine ⟨?_, fun t inside _ concerns => all t inside concerns⟩
    obtain ⟨errand, sent, given, concerns⟩ := exists_mem_errands pace site at_i fit among
    rw [← planned] at sent
    obtain ⟨t, inside, rfl⟩ := List.mem_map.mp sent
    exact ⟨t, inside, given, concerns⟩
  · intro all t inside concerns
    have sent : t.toErrand ∈ errands pace site addresses invs := by
      rw [← planned]
      exact List.mem_map_of_mem inside
    exact (all t.address (address_of_mem_errands sent)).2 t inside rfl concerns

/-- A dispatch settles every invalidation, and as succeeded exactly those that something can be sent
for, on a fleet that has nodes, if each node acknowledged every request made for them. For a page
that shares its id with no other these are the requests for its own URL. -/
theorem dispatch_unanimous (s : Surroundings ε) (pace : Pace) (invs : List Invalidation)
    (l : Ledger ε) {addresses : List String} {site : String}
    (steady : s.Steady l.outside addresses site)
    (within : pace.concurrency ≤ Fanout.maxConcurrency)
    (unsettled : ∀ inv ∈ invs, inv.isTerminal = false) :
    ∃ (tries : List Try) (final : List Invalidation) (l' : Ledger ε),
      (purger s pace).dispatch invs l = ((final, .done), l') ∧
      tries.map (·.toErrand) = errands pace site addresses invs ∧
      s.Undergoes l.outside tries l'.outside ∧
      final.length = invs.length ∧
      ((invs.map (·.id)).Nodup → ∀ i inv m, invs[i]? = some inv → pageMethod? inv.kind = some m →
        ∀ t ∈ tries, t.aim.concerns inv i = true →
          t.request = pageRequest m site inv.expression t.address) ∧
      ∀ i inv, invs[i]? = some inv → ∃ state : State,
        final[i]? = some { inv with state } ∧ (state = .succeeded ∨ state = .failed) ∧
        (state = .succeeded ↔ isAdmissible inv = true ∧ addresses ≠ [] ∧
          ∀ address ∈ addresses,
            (∃ t ∈ tries, t.address = address ∧ t.aim.concerns inv i = true) ∧
            ∀ t ∈ tries, t.address = address → t.aim.concerns inv i = true →
              t.isAcknowledged = true) := by
  have apart : invs.zipIdx.Pairwise fun x y => x.2 ≠ y.2 := by
    rw [List.pairwise_iff_getElem]
    intro i j hi hj lt
    simp only [List.getElem_zipIdx]
    omega
  have pending : ∀ x ∈ invs.zipIdx, x.1.isTerminal = decide (x.1.kind ∉ Kind.all) := by
    intro x inside
    rw [unsettled x.1 (List.fst_mem_of_mem_zipIdx inside)]
    simp only [Kind.mem_all, not_true_eq_false, decide_false]
  obtain ⟨tries, planned, undergone, answer⟩ :=
    dispatchKinds_settles Kind.nodup_all within apart pending steady
  rw [List.zipIdx_map_fst] at undergone answer
  rw [dispatch_eq]
  refine ⟨tries, _, _, Prod.ext answer rfl, planned, undergone, ?_, ?_, fun i inv at_i => ?_⟩
  · rw [List.length_map, List.length_zipIdx]
  · intro distinct i inv m at_i page t inside concerns
    have sent : t.toErrand ∈ errands pace site addresses invs := by
      rw [errands, ← planned]
      exact List.mem_map_of_mem inside
    exact request_of_concerns distinct at_i page sent concerns
  · have found : invs.zipIdx[i]? = some (inv, i) := by
      rw [List.getElem?_zipIdx, at_i, Option.map_some, Nat.zero_add]
    have reached : inv.state.advance (.ofSuccess (verdict addresses tries (inv, i))) =
        .ofSuccess (verdict addresses tries (inv, i)) :=
      State.advance_ofSuccess (unsettled inv (List.mem_of_getElem? at_i)) _
    refine ⟨.ofSuccess (verdict addresses tries (inv, i)), ?_, ?_, ?_⟩
    · rw [List.getElem?_map, found, Option.map_some, if_pos (Kind.mem_all _), Invalidation.settle,
        Invalidation.advance, reached]
    · cases verdict addresses tries (inv, i) with
      | true => exact .inl rfl
      | false => exact .inr rfl
    · rw [State.ofSuccess_eq_succeeded_iff]
      exact verdict_eachNode planned at_i

/-- Of two nodes one refuses to ban the site. Tags and a page that both acknowledged succeed; a tag
with a blank in it, for which nothing is sent, and the site fail. -/
theorem dispatch_unanimous_refused :
    let refusal : Http.Rule :=
      ⟨some "BAN", some "http://10.0.0.2:8080/site", none, none, .response 503 []⟩
    let fleet : Rehearsal :=
      ⟨["10.0.0.1", "10.0.0.2:8080"], "site-a", none, 0, ⟨[refusal], [], true⟩⟩
    let invs := ["a", "b c", "d"].map (Invalidation.ofId 0 .tag) ++
      [.ofId 1 .url "https://example.com/", .ofId 2 .everything ""]
    ∃ final l', (purger Rehearsal.surroundings ⟨15, 8⟩).dispatch invs (.start fleet) =
        ((final, .done), l') ∧
      final.map (·.state) = [.succeeded, .failed, .succeeded, .succeeded, .failed] := by
  intro refusal fleet invs
  obtain ⟨tries, final, l', run, planned, undergone, length, -, each⟩ :=
    dispatch_unanimous Rehearsal.surroundings ⟨15, 8⟩ invs (.start fleet) (Rehearsal.steady fleet)
      (by decide) (by decide)
  have untiring : fleet.network.IsUntiring := by decide
  have known := Rehearsal.tries_untiring untiring undergone
  rw [planned] at known
  refine ⟨final, l', run, ?_⟩
  have states : final.map (·.state) = invs.zipIdx.map fun x =>
      State.ofSuccess (verdict fleet.edgeAddresses tries x) := by
    refine Invalidation.states_of_settled
      (fun i inv => verdict fleet.edgeAddresses tries (inv, i)) length ?_
    intro i inv at_i
    rw [verdict_eachNode planned at_i]
    exact each i inv at_i
  rw [states, known]
  decide +kernel

end CachePurge.Fleet
