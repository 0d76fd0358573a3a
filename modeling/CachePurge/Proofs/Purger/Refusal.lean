import CachePurge.Proofs.Purger.Routing
import CachePurge.Rehearsal
import CachePurge.Vendor.Purger

/-!
What a dispatch does with a list that holds something unsupported. The list is sorted into batches
by a pass that stops at the first invalidation of a kind that the purger does not support, and no
handler is called before that pass is over: a refused list leaves no trace but the panic.
-/

namespace CachePurge
namespace Purger

open Invalidation (ofKind advanceKind)

variable {σ : Type}

/-- A batch for each kind. -/
abbrev Batches := Kind → List Invalidation

/-- Puts an invalidation at the end of the batch of its kind. -/
def Batches.push (batches : Batches) (inv : Invalidation) : Batches := fun kind =>
  if inv.kind = kind then batches kind ++ [inv] else batches kind

/-- Puts invalidations into their batches one by one, up to the first that is not supported. -/
def sort (p : Purger σ) : Batches → List Invalidation → Except Panic Batches
  | batches, [] => .ok batches
  | batches, inv :: rest =>
    if p.supported.contains inv.kind then p.sort (batches.push inv) rest
    else .error (unsupported p.name inv.kind)

/-- Calls the handlers of some kinds in order, each with its batch if there is anything in it. -/
def handleBatches (p : Purger σ) (batches : Batches) : List Kind → (first : Option Fault) →
    List Invalidation → StateM σ (List Invalidation × Ending)
  | [], first, invs => return (invs.map Invalidation.fail, endingOf first)
  | kind :: rest, first, invs => do
    if (batches kind).isEmpty then p.handleBatches batches rest first invs
    else
      let (states, ending) ← p.handle kind (batches kind)
      let invs := advanceKind kind invs states
      match ending with
      | .done => p.handleBatches batches rest first invs
      | .failed fault => p.handleBatches batches rest (first <|> some fault) invs
      | .panicked panic => return (invs, .panicked panic)

section Sorting
variable {p : Purger σ} {before : List Invalidation}
  (fine : ∀ inv ∈ before, inv.kind ∈ p.supported)
include fine

/-- What is supported is sorted, and the pass goes on with what follows. -/
theorem sort_append (batches : Batches) (after : List Invalidation) :
    p.sort batches (before ++ after) =
      p.sort (fun kind => batches kind ++ ofKind kind before) after := by
  induction before generalizing batches with
  | nil => simp only [List.nil_append, ofKind, List.filter_nil, List.append_nil]
  | cons inv rest ih =>
      obtain ⟨own, fine⟩ := List.forall_mem_cons.mp fine
      rw [List.cons_append, sort, if_pos (List.contains_iff_mem.mpr own), ih fine]
      congr 1
      funext kind
      rw [Batches.push, ofKind, ofKind, List.filter_cons]
      by_cases same : inv.kind = kind
      · rw [if_pos same, if_pos (decide_eq_true same), List.append_assoc, List.singleton_append]
      · rw [if_neg same, if_neg (by simpa using same)]

theorem sort_supported : p.sort (fun _ => []) before = .ok fun kind => ofKind kind before := by
  have sorted := sort_append fine (fun _ => []) []
  rwa [List.append_nil] at sorted

theorem sort_unsupported {bad : Invalidation} (alien : bad.kind ∉ p.supported)
    (after : List Invalidation) :
    p.sort (fun _ => []) (before ++ bad :: after) = .error (unsupported p.name bad.kind) := by
  rw [sort_append fine, sort, if_neg (mt List.contains_iff_mem.mp alien)]

end Sorting

/-- The batches of a list need not be made anew before each handler: no handler touches the
invalidations of another kind. -/
theorem handleBatches_eq (p : Purger σ) {kinds : List Kind} (distinct : kinds.Nodup)
    {batches : Batches} {invs : List Invalidation}
    (own : ∀ kind ∈ kinds, batches kind = ofKind kind invs) (first : Option Fault) :
    p.handleBatches batches kinds first invs = p.dispatchKinds kinds first invs := by
  induction kinds generalizing first invs with
  | nil => rfl
  | cons kind rest ih =>
      obtain ⟨fresh, distinct⟩ := List.nodup_cons.mp distinct
      obtain ⟨batch, others⟩ := List.forall_mem_cons.mp own
      have later (states : List State) (first : Option Fault) :
          p.handleBatches batches rest first (advanceKind kind invs states) =
            p.dispatchKinds rest first (advanceKind kind invs states) := by
        refine ih distinct (fun other among => ?_) first
        rw [others other among, Invalidation.ofKind_advanceKind_of_ne]
        rintro rfl
        exact fresh among
      rw [handleBatches, dispatchKinds, batch, ih distinct others]
      refine if_congr Iff.rfl rfl (congrArg (_ >>= ·) (funext fun answer => ?_))
      obtain ⟨states, ending⟩ := answer
      cases ending with
      | done => exact later states first
      | failed fault => exact later states _
      | panicked panic => rfl

/-- A list is taken apart at the first invalidation that is not supported. -/
theorem exists_first (p : Purger σ) {invs : List Invalidation}
    (unfit : ∃ inv ∈ invs, inv.kind ∉ p.supported) :
    ∃ before bad after, invs = before ++ bad :: after ∧
      (∀ inv ∈ before, inv.kind ∈ p.supported) ∧ bad.kind ∉ p.supported := by
  cases found : invs.find? fun inv => !p.supported.contains inv.kind with
  | none =>
      obtain ⟨inv, among, alien⟩ := unfit
      exact absurd (by simpa using List.find?_eq_none.mp found inv among) alien
  | some bad =>
      obtain ⟨alien, before, after, split, fine⟩ := List.find?_eq_some_iff_append.mp found
      exact ⟨before, bad, after, split, by simpa using fine, by simpa using alien⟩

/-- A dispatch is the pass over the list and then, if that came to its end, the handlers. -/
theorem dispatch_eq_sort (p : Purger σ) (invs : List Invalidation) :
    p.dispatch invs = match p.sort (fun _ => []) invs with
      | .error panic => return (invs, .panicked panic)
      | .ok batches => p.handleBatches batches Kind.all none invs := by
  by_cases unfit : ∃ inv ∈ invs, inv.kind ∉ p.supported
  · obtain ⟨before, bad, after, rfl, fine, alien⟩ := exists_first p unfit
    rw [sort_unsupported fine alien, dispatch, List.find?_append]
    have none : (before.find? fun inv => !p.supported.contains inv.kind) = none :=
      List.find?_eq_none.mpr fun inv among => by simpa using fine inv among
    rw [none, Option.none_or, List.find?_cons_of_pos (by simpa using alien)]
  · have fine : ∀ inv ∈ invs, inv.kind ∈ p.supported := by simpa using unfit
    rw [sort_supported fine]
    funext st
    rw [dispatch_of_supported p fine]
    exact congrFun (p.handleBatches_eq Kind.nodup_all (fun _ _ => rfl) none).symm st

/-- Handlers are visited unless there is nothing of their kinds. -/
theorem recording_visits (p : Purger σ) (kinds : List Kind) (first : Option Fault)
    (invs : List Invalidation) (st : σ) (visits : List (Visit σ)) :
    ∃ more, (p.recording.dispatchKinds kinds first invs (st, visits)).2.2 = visits ++ more ∧
      (more = [] → ∀ inv ∈ invs, inv.kind ∉ kinds) := by
  induction kinds generalizing first invs st visits with
  | nil => exact ⟨[], (List.append_nil _).symm, fun _ _ _ => List.not_mem_nil⟩
  | cons kind rest ih =>
      rw [dispatchKinds]
      split
      · next empty =>
          obtain ⟨more, visited, none⟩ := ih first invs st visits
          refine ⟨more, visited, fun nothing inv among => ?_⟩
          have other := List.filter_eq_nil_iff.mp (List.isEmpty_iff.mp empty) inv among
          exact List.not_mem_cons_of_ne_of_not_mem (by simpa using other) (none nothing inv among)
      · have recorded : p.recording.handle kind (invs.filter (·.kind = kind)) (st, visits) =
            ((p.handle kind (invs.filter (·.kind = kind)) st).1,
              ((p.handle kind (invs.filter (·.kind = kind)) st).2,
                visits ++ [visitOf kind invs st])) := rfl
        rw [bind_apply, recorded]
        generalize p.handle kind (invs.filter (·.kind = kind)) st = handled
        obtain ⟨⟨states, ending⟩, st'⟩ := handled
        cases ending with
        | done =>
            obtain ⟨more, visited, -⟩ := ih first _ st' (visits ++ [visitOf kind invs st])
            exact ⟨_ :: more, visited.trans (List.append_assoc _ _ _),
              fun none => absurd none (List.cons_ne_nil _ _)⟩
        | failed fault =>
            obtain ⟨more, visited, -⟩ :=
              ih (first <|> some fault) _ st' (visits ++ [visitOf kind invs st])
            exact ⟨_ :: more, visited.trans (List.append_assoc _ _ _),
              fun none => absurd none (List.cons_ne_nil _ _)⟩
        | panicked panic => exact ⟨[_], rfl, fun none => absurd none (List.cons_ne_nil _ _)⟩

theorem dispatch_unsupported (p : Purger σ) {before : List Invalidation}
    (fine : ∀ inv ∈ before, inv.kind ∈ p.supported) {bad : Invalidation}
    (alien : bad.kind ∉ p.supported) (after : List Invalidation) (st : σ) :
    p.dispatch (before ++ bad :: after) st =
      ((before ++ bad :: after, .panicked (unsupported p.name bad.kind)), st) := by
  rw [dispatch_eq_sort, sort_unsupported fine alien]
  rfl

/-- A list that holds something unsupported, wherever that stands and whatever stands around it, is
refused as a whole: the dispatch panics for the first such invalidation, and visits no handler,
moves no invalidation and leaves the purger as it was. A list without such is not refused: if there
is anything in it then a handler is visited. -/
theorem dispatch_refuses (p : Purger σ) (invs : List Invalidation) (st : σ)
    (visits : List (Visit σ)) :
    ((p.recording.dispatch invs (st, visits)).2.2 = visits ↔
      invs = [] ∨ ∃ inv ∈ invs, inv.kind ∉ p.supported) ∧
    ((∃ inv ∈ invs, inv.kind ∉ p.supported) →
      ∃ before bad after, invs = before ++ bad :: after ∧
        (∀ inv ∈ before, inv.kind ∈ p.supported) ∧ bad.kind ∉ p.supported ∧
        let panic : Panic := ⟨"purger '" ++ p.name ++ "' does not support " ++ bad.kind.label ++
          " invalidations; callers must only submit supported kinds"⟩
        p.dispatch invs st = ((invs, .panicked panic), st) ∧
          p.recording.dispatch invs (st, visits) = ((invs, .panicked panic), (st, visits))) := by
  refine ⟨⟨fun quiet => ?_, ?_⟩, fun unfit => ?_⟩
  · refine or_iff_not_imp_right.mpr fun fit => ?_
    have fine : ∀ inv ∈ invs, inv.kind ∈ p.supported := by simpa using fit
    obtain ⟨more, visited, none⟩ := p.recording_visits Kind.all none invs st visits
    rw [dispatch_of_supported p.recording fine, visited, List.append_right_eq_self] at quiet
    exact List.eq_nil_iff_forall_not_mem.mpr fun inv among =>
      none quiet inv among inv.kind.mem_all
  · rintro (rfl | unfit)
    · rfl
    · obtain ⟨before, bad, after, rfl, fine, alien⟩ := exists_first p unfit
      rw [dispatch_unsupported p.recording fine alien]
  · obtain ⟨before, bad, after, rfl, fine, alien⟩ := exists_first p unfit
    exact ⟨before, bad, after, rfl, fine, alien, dispatch_unsupported p fine alien after st,
      dispatch_unsupported p.recording fine alien after (st, visits)⟩

/-- The vendor has no handler for patterns. The tag before the pattern and the site after it could
have been purged, since the backend is there, but no handler is visited for them. Without the
pattern one is. -/
theorem dispatch_refuses_pattern :
    let api : Url :=
      ⟨"https", some ⟨"", none, some (.domain "api.test"), none⟩, .rooted [""], none, none⟩
    let outside : Rehearsal := ⟨[], "site-a", none, Rehearsal.opening, [], [], true⟩
    let f := { Vendor.Forwarder.start outside with
      backend := some ⟨api, "service", "token", "site-a"⟩ }
    let p := Vendor.purger Rehearsal.surroundings
    let tag := Invalidation.ofId 1 .tag "a"
    let pattern := Invalidation.ofId 2 .wildcardUrl "https://example.com/*"
    let site := Invalidation.ofId 3 .everything ""
    let panic : Panic := ⟨"purger 'vendor_cdn' does not support wildcardurl invalidations; " ++
      "callers must only submit supported kinds"⟩
    p.dispatch [tag, pattern, site] f = (([tag, pattern, site], .panicked panic), f) ∧
      p.recording.dispatch [tag, pattern, site] (f, []) =
        (([tag, pattern, site], .panicked panic), (f, [])) ∧
      (p.recording.dispatch [tag, site] (f, [])).2.2 ≠ [] := by
  intro api outside f p tag pattern site panic
  have unfit : ∃ inv ∈ [tag, pattern, site], inv.kind ∉ p.supported := by decide
  obtain ⟨before, bad, after, -, -, alien, run, recorded⟩ :=
    (dispatch_refuses p [tag, pattern, site] f []).2 unfit
  have only : bad.kind = .wildcardUrl := by
    cases kind : bad.kind with
    | wildcardUrl => rfl
    | tag | url | everything => exact absurd (by rw [kind]; decide) alien
  have text : (⟨"purger '" ++ p.name ++ "' does not support " ++ bad.kind.label ++
      " invalidations; callers must only submit supported kinds"⟩ : Panic) = panic := by
    rw [only]
    rfl
  rw [text] at run recorded
  refine ⟨run, recorded, ?_⟩
  intro quiet
  have none := (dispatch_refuses p [tag, site] f []).1.mp quiet
  exact absurd none (by decide)

end Purger
end CachePurge
