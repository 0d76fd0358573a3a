import CachePurge.Proofs.Invalidation.Advance
import CachePurge.Proofs.Ledger
import CachePurge.Purger.Scripted

/-!
Handlers that take no state back. What such a handler reports of its batch can be written to the
invalidations as it is, and whatever calls are made, by dispatch or directly, the list moves forward
only. Purgers that merely use the methods of a state have such handlers, scripted ones among them.
-/

namespace CachePurge
namespace Invalidation

/-- The same invalidation in another state, whatever that is. -/
def put (inv : Invalidation) (next : State) : Invalidation := { inv with state := next }

/-- Invalidations after those at some places were treated with a state each, one after the other. -/
def eachAt (f : Invalidation → State → Invalidation) (invs : List Invalidation)
    (moves : List (Nat × State)) : List Invalidation :=
  moves.foldl (fun invs move => invs.modify move.1 fun inv => f inv move.2) invs

/-- The invalidations at some places. -/
def pick (invs : List Invalidation) (places : List Nat) : List Invalidation :=
  places.filterMap fun i => invs[i]?

/-- States that invalidations can be left in. -/
abbrev Reach : List Invalidation → List State → Prop :=
  List.Forall₂ fun inv next => inv.state.Reaches next

theorem put_eq_advance {inv : Invalidation} {next : State} (reaches : inv.state.Reaches next) :
    inv.put next = inv.advance next := by
  rw [put, advance, reaches.advance_eq]

theorem reach_of_moved {invs after : List Invalidation} (moved : Moved invs after) :
    Reach invs (after.map (·.state)) :=
  List.forall₂_map_right_iff.mpr (moved.imp fun _ _ moves => moves.forward)

section EachAt
variable {invs : List Invalidation}

theorem modify_moved {f : Invalidation → Invalidation} {i : Nat}
    (moves : ∀ inv, invs[i]? = some inv → inv.MovesTo (f inv)) : Moved invs (invs.modify i f) := by
  induction invs generalizing i with
  | nil =>
      rw [List.modify_nil]
      exact .nil
  | cons inv rest ih =>
      cases i with
      | zero =>
          rw [List.modify_zero_cons]
          exact .cons (moves inv rfl) (Moved.refl rest)
      | succ i =>
          rw [List.modify_succ_cons]
          exact .cons (.refl inv) (ih moves)

theorem eachAt_advance_moved (moves : List (Nat × State)) :
    Moved invs (eachAt advance invs moves) := by
  induction moves generalizing invs with
  | nil => exact Moved.refl invs
  | cons move rest ih => exact (modify_moved fun inv _ => inv.advance_moves move.2).trans ih

/-- Writing reports moves the list forward, provided that no place is written twice. -/
theorem eachAt_put_moved {places : List Nat} {states : List State} (apart : places.Nodup)
    (within : ∀ i ∈ places, i < invs.length) (reach : Reach (pick invs places) states) :
    Moved invs (eachAt put invs (places.zip states)) := by
  induction places generalizing invs states with
  | nil => exact Moved.refl invs
  | cons i rest ih =>
      have ⟨new, others⟩ := List.nodup_cons.mp apart
      have found := List.getElem?_eq_getElem (within i List.mem_cons_self)
      rw [pick, List.filterMap_cons_some found] at reach
      cases reach with
      | @cons _ next _ states first later =>
          have moved : Moved invs (invs.modify i (put · next)) := by
            refine modify_moved fun inv at_i => ⟨rfl, ?_⟩
            rw [found] at at_i
            exact Option.some.inj at_i ▸ first
          have same : pick (invs.modify i (put · next)) rest = pick invs rest := by
            refine List.filterMap_congr fun j among => ?_
            exact List.getElem?_modify_ne _ _ fun equal : i = j => new (equal ▸ among)
          refine moved.trans (ih others ?_ (same.symm ▸ later))
          intro j among
          rw [List.length_modify]
          exact within j (List.mem_cons_of_mem i among)

theorem eachAt_succ {f : Invalidation → State → Invalidation} (inv : Invalidation)
    (moves : List (Nat × State)) :
    eachAt f (inv :: invs) (moves.map fun move => (move.1 + 1, move.2)) =
      inv :: eachAt f invs moves := by
  induction moves generalizing invs with
  | nil => rfl
  | cons move rest ih => exact ih

theorem eachAt_range {f : Invalidation → State → Invalidation} {states : List State}
    (long : states.length = invs.length) :
    eachAt f invs ((List.range invs.length).zip states) = invs.zipWith f states := by
  induction invs generalizing states with
  | nil => rfl
  | cons inv rest ih =>
      cases states with
      | nil => cases long
      | cons next states =>
          rw [List.length_cons, List.range_succ_eq_map, List.zip_cons_cons, List.zip_map_left,
            List.zipWith_cons_cons, ← ih (Nat.succ.inj long)]
          exact eachAt_succ (f inv next) _

theorem pick_range (invs : List Invalidation) : pick invs (List.range invs.length) = invs := by
  induction invs with
  | nil => rfl
  | cons inv rest ih =>
      rw [pick] at ih
      simp [pick, List.range_succ_eq_map, List.filterMap_map, ih]

theorem advanceEach_of_reach {states : List State} (reach : Reach invs states) :
    advanceEach (fun _ => true) invs states = invs.zipWith put states := by
  induction reach with
  | nil => rfl
  | cons first _ ih =>
      rw [List.zipWith_cons_cons, put_eq_advance first, ← ih]
      rfl

end EachAt
end Invalidation

/-- The state that an action asks for; nothing is moved back to the first one. -/
def Action.target : Action → State
  | .leave => .new
  | .process => .processing
  | .succeed => .succeeded
  | .fail => .failed
  | .settle success => .ofSuccess success

theorem Action.apply_eq (action : Action) (inv : Invalidation) :
    action.apply inv = inv.advance action.target := by
  cases action with
  | leave =>
      obtain ⟨id, kind, expression, state⟩ := inv
      cases state <;> rfl
  | process | succeed | fail | settle => rfl

/-- The states that a script asks for. -/
def Script.targets (script : Script) : List Action → Nat → List State
  | _, 0 => []
  | [], n + 1 => script.otherwise.target :: script.targets [] n
  | action :: actions, n + 1 => action.target :: script.targets actions n

theorem Script.length_targets (script : Script) (actions : List Action) (n : Nat) :
    (script.targets actions n).length = n := by
  induction n generalizing actions with
  | zero => rw [targets, List.length_nil]
  | succ n ih => cases actions <;> rw [targets, List.length_cons, ih]

theorem Script.play_eq (script : Script) (actions : List Action) (batch : List Invalidation) :
    script.play actions batch =
      batch.zipWith Invalidation.advance (script.targets actions batch.length) := by
  induction batch generalizing actions with
  | nil => rw [play, List.zipWith_nil_left]
  | cons inv rest ih =>
      cases actions <;>
        rw [play, List.length_cons, targets, List.zipWith_cons_cons, ih, Action.apply_eq]

namespace Purger
variable {σ : Type}

/-- A purger whose handlers look at their batch and at a state of their own, and move invalidations
of the batch by the methods of a state: which ones, to what and in which order is up to them, and so
is how they end. -/
def acting (name : String) (supported : List Kind)
    (acts : Kind → List Invalidation → StateM σ (List (Nat × State) × Ending)) : Purger σ where
  name := name
  supported := supported
  handle kind batch := do
    let (moves, ending) ← acts kind batch
    return ((Invalidation.eachAt Invalidation.advance batch moves).map (·.state), ending)

theorem scripted_eq_acting (name : String) (supported : List Kind)
    (scripts : Kind → Option Script) :
    scripted name supported scripts = acting name supported fun kind batch => do
      modify (· ++ [⟨kind, batch.map (·.expression)⟩])
      match scripts kind with
      | none => return ([], .panicked (unsupported name kind))
      | some script =>
        let targets := script.targets script.actions batch.length
        return ((List.range batch.length).zip targets, match script.fault with
          | some fault => .failed fault
          | none => .done) := by
  simp only [scripted, acting, Purger.mk.injEq, true_and]
  funext kind batch calls
  simp only [bind_apply]
  cases scripts kind with
  | none => rfl
  | some script =>
      have played := Invalidation.eachAt_range (f := Invalidation.advance)
        (script.length_targets script.actions batch.length)
      rw [← script.play_eq] at played
      cases fault : script.fault <;> simp only [pure_apply, played, fault]

/-- No handler takes back a state: each reports a state for every invalidation of its batch, the
same or a later one. -/
def Forward (p : Purger σ) : Prop :=
  ∀ kind batch st, Invalidation.Reach batch (p.handle kind batch st).1.1

theorem acting_forward (name : String) (supported : List Kind)
    (acts : Kind → List Invalidation → StateM σ (List (Nat × State) × Ending)) :
    (acting name supported acts).Forward := fun _ _ _ =>
  Invalidation.reach_of_moved (Invalidation.eachAt_advance_moved _)

/-- Calls one handler with the invalidations at some places, in the order of these, and writes what
it reports. -/
def callAt (p : Purger σ) (kind : Kind) (places : List Nat) (invs : List Invalidation) :
    StateM σ (List Invalidation × Ending) := do
  let (states, ending) ← p.handle kind (Invalidation.pick invs places)
  return (Invalidation.eachAt Invalidation.put invs (places.zip states), ending)

/-- A direct call is one with all places. -/
theorem callAt_range {p : Purger σ} (forward : p.Forward) (kind : Kind)
    (invs : List Invalidation) :
    p.callAt kind (List.range invs.length) invs = p.call kind invs := by
  funext st
  have reach := forward kind invs st
  simp only [callAt, call, bind_apply, Invalidation.pick_range]
  rw [Invalidation.eachAt_range reach.length_eq.symm, ← Invalidation.advanceEach_of_reach reach]

theorem callAt_moved {p : Purger σ} (forward : p.Forward) (kind : Kind) {places : List Nat}
    {invs : List Invalidation} (apart : places.Nodup) (within : ∀ i ∈ places, i < invs.length)
    (st : σ) : Invalidation.Moved invs (p.callAt kind places invs st).1.1 :=
  Invalidation.eachAt_put_moved apart within (forward kind _ st)

theorem dispatchKinds_moved (p : Purger σ) (kinds : List Kind) (first : Option Fault)
    (invs : List Invalidation) (st : σ) :
    Invalidation.Moved invs (p.dispatchKinds kinds first invs st).1.1 := by
  induction kinds generalizing first invs st with
  | nil => exact Invalidation.moved_map (fun inv => inv.advance_moves .failed) invs
  | cons kind rest ih =>
      rw [dispatchKinds]
      split
      · exact ih first invs st
      · simp only [bind_apply]
        generalize p.handle kind (invs.filter (·.kind = kind)) st = handled
        obtain ⟨⟨states, ending⟩, st'⟩ := handled
        have moved := Invalidation.advanceEach_moved (·.kind = kind) invs states
        cases ending with
        | done => exact moved.trans (ih _ _ _)
        | failed fault => exact moved.trans (ih _ _ _)
        | panicked panic => exact moved

theorem dispatch_moved (p : Purger σ) (invs : List Invalidation) (st : σ) :
    Invalidation.Moved invs (p.dispatch invs st).1.1 := by
  rw [dispatch]
  cases invs.find? fun inv => !p.supported.contains inv.kind with
  | some inv => exact Invalidation.Moved.refl invs
  | none => exact p.dispatchKinds_moved _ _ invs st

theorem dispatchKinds_terminal (p : Purger σ) (kinds : List Kind) (first : Option Fault)
    (invs : List Invalidation) (st : σ) :
    (∃ panic, (p.dispatchKinds kinds first invs st).1.2 = .panicked panic) ∨
      ∀ inv ∈ (p.dispatchKinds kinds first invs st).1.1, inv.isTerminal := by
  induction kinds generalizing first invs st with
  | nil =>
      refine .inr fun inv among => ?_
      obtain ⟨inv, -, rfl⟩ := List.mem_map.mp among
      obtain ⟨id, kind, expression, state⟩ := inv
      cases state <;> rfl
  | cons kind rest ih =>
      rw [dispatchKinds]
      split
      · exact ih first invs st
      · simp only [bind_apply]
        generalize p.handle kind (invs.filter (·.kind = kind)) st = handled
        obtain ⟨⟨states, ending⟩, st'⟩ := handled
        cases ending with
        | done => exact ih _ _ _
        | failed fault => exact ih _ _ _
        | panicked panic => exact .inl ⟨panic, rfl⟩

/-- A dispatch that returns leaves nothing unsettled. -/
theorem dispatch_terminal {p : Purger σ} {invs : List Invalidation} {st : σ}
    (returned : ∀ panic, (p.dispatch invs st).1.2 ≠ .panicked panic) :
    ∀ inv ∈ (p.dispatch invs st).1.1, inv.isTerminal := by
  rw [dispatch] at returned ⊢
  cases h : invs.find? fun inv => !p.supported.contains inv.kind with
  | some inv =>
      rw [h] at returned
      exact absurd rfl (returned _)
  | none =>
      rw [h] at returned
      refine (p.dispatchKinds_terminal _ _ invs st).resolve_left ?_
      exact fun ⟨panic, ending⟩ => returned panic ending

end Purger
end CachePurge
