import CachePurge.Proofs.Vendor.Suspension

/-!
When the vendor's purger chooses its backend. As long as the platform's settings have made none,
every visit reads them anew and fails its batch without sending anything. The first visit whose
reading makes one keeps it: from then on the settings are not read again, and no visit reports a
fault.
-/

namespace CachePurge.Vendor

variable {ε : Type}

/-- Reads the vendor's settings and the site's name: the backend that they make, and what is left of
the surroundings. -/
def reading (s : Surroundings ε) (e : ε) : Option Backend × ε :=
  let (settings, e) := s.vendorSettings e
  let (site, e) := s.siteIdentifier e
  (select settings site, e)

/-- The same surroundings, but what the platform answers about the vendor. -/
def withSettings (s : Surroundings ε) (settings : StateM ε (Option VendorSettings)) :
    Surroundings ε :=
  { s with vendorSettings := settings }

/-- A purger that has read the settings, and found this in them. -/
def Forwarder.afterReading (s : Surroundings ε) (f : Forwarder ε) : Forwarder ε :=
  { f.within (reading s f.outside).2 with backend := (reading s f.outside).1 }

/-- A visit that read the settings, found no backend in them, and failed its batch. -/
structure Refused (s : Surroundings ε) (visit : Purger.Visit (Forwarder ε)) : Prop where
  unchosen : visit.before.backend = none
  unusable : (reading s visit.before.outside).1 = none
  read : (visit.after (purger s)).outside = (reading s visit.before.outside).2
  requests : (visit.after (purger s)).requests = visit.before.requests
  left : visit.left (purger s) = visit.batch.map Invalidation.fail
  ending : ∃ text, (visit.answer (purger s)).2 = .failed (.configuration text)
  kept : (visit.after (purger s)).backend = none

/-- A visit that was served by a backend chosen before. Whatever the platform would answer about the
vendor, the visit goes the same way. -/
structure Served (s : Surroundings ε) (v : Backend) (visit : Purger.Visit (Forwarder ε)) :
    Prop where
  chosen : visit.before.backend = some v
  operation : ∃ operation : Operation ε, operation? visit.kind = some operation ∧
    (purger s).handle visit.kind visit.batch visit.before =
      let run := operation v s (visit.batch.map Invalidation.process)
        (entered visit.kind visit.before)
      conclude visit.kind run.1 ⟨run.2, some v⟩
  unread : ∀ settings,
    (purger (withSettings s settings)).handle visit.kind visit.batch visit.before =
      (purger s).handle visit.kind visit.batch visit.before
  done : (visit.answer (purger s)).2 = .done
  kept : (visit.after (purger s)).backend = some v

/-- A visit that read the settings, found a backend in them, and was served by it. -/
structure Chooses (s : Surroundings ε) (v : Backend) (visit : Purger.Visit (Forwarder ε)) :
    Prop where
  unchosen : visit.before.backend = none
  usable : (reading s visit.before.outside).1 = some v
  served : Served s v { visit with before := visit.before.afterReading s }
  same : (purger s).handle visit.kind visit.batch visit.before =
    (purger s).handle visit.kind visit.batch (visit.before.afterReading s)

section Reading
variable {s : Surroundings ε} {kind : Kind} {operation : Operation ε} {f f' : Forwarder ε}

theorem resolve_unchosen (unchosen : f.backend = none) :
    resolve s f = ((reading s f.outside).1, f.afterReading s) := by
  have got : (get : StateM (Forwarder ε) (Forwarder ε)) f = (f, f) := rfl
  simp only [resolve, bind_apply, got, unchosen, Forwarder.afterReading, reading]
  generalize select = choose
  rfl

theorem handle_forward (found : operation? kind = some operation) (batch : List Invalidation)
    (f : Forwarder ε) :
    (purger s).handle kind batch f =
      let run := forward s kind operation batch ⟨entered kind f, f.backend⟩
      ((run.1.1.map (·.state), run.1.2),
        (Forwarder.onLedger (Ledger.note (.exit kind)) run.2).2) := by
  have noted : (Forwarder.onLedger (Ledger.note (.enter kind)) f).2 = ⟨entered kind f, f.backend⟩ :=
    rfl
  simp only [purger, found, bind_apply, noted]
  generalize forward s kind operation batch ⟨entered kind f, f.backend⟩ = run
  rfl

theorem entered_afterReading (kind : Kind) (f : Forwarder ε) :
    Forwarder.afterReading s ⟨entered kind f, f.backend⟩ =
      ⟨entered kind (f.afterReading s), (f.afterReading s).backend⟩ := by
  have outside : (⟨entered kind f, f.backend⟩ : Forwarder ε).outside = f.outside := rfl
  rw [Forwarder.afterReading, Forwarder.afterReading, outside]
  generalize reading s f.outside = found
  rfl

/-- A handler that was entered resolves as its purger would have. -/
theorem resolve_entered (kind : Kind) (unchosen : f.backend = none) :
    resolve s ⟨entered kind f, f.backend⟩ =
      ((reading s f.outside).1,
        ⟨entered kind (f.afterReading s), (f.afterReading s).backend⟩) := by
  have outside : (⟨entered kind f, f.backend⟩ : Forwarder ε).outside = f.outside := rfl
  rw [resolve_unchosen (f := ⟨entered kind f, f.backend⟩) unchosen, entered_afterReading, outside]

theorem forward_unusable (resolved : resolve s f = (none, f')) (batch : List Invalidation) :
    forward s kind operation batch f =
      ((batch.map Invalidation.fail, .failed noBackend),
        (Forwarder.onLedger (Ledger.count false batch.length) f').2) := by
  simp only [forward, bind_apply, resolved]
  rfl

theorem forward_congr (same : resolve s f = resolve s f') (batch : List Invalidation) :
    forward s kind operation batch f = forward s kind operation batch f' := by
  simp only [forward, bind_apply, same]

end Reading

section Visit
variable {s : Surroundings ε} {kind : Kind} {operation : Operation ε} {f : Forwarder ε}

theorem handle_afterReading (found : operation? kind = some operation)
    (unchosen : f.backend = none) {v : Backend} (usable : (reading s f.outside).1 = some v)
    (batch : List Invalidation) :
    (purger s).handle kind batch f = (purger s).handle kind batch (f.afterReading s) := by
  have chosen : (f.afterReading s).backend = some v := usable
  have same : resolve s ⟨entered kind f, f.backend⟩ =
      resolve s ⟨entered kind (f.afterReading s), (f.afterReading s).backend⟩ := by
    rw [resolve_entered kind unchosen, usable,
      resolve_chosen s (f := ⟨entered kind (f.afterReading s), _⟩) chosen]
  rw [handle_forward found, handle_forward found, forward_congr same]

theorem refused_of_unusable (found : operation? kind = some operation)
    (unchosen : f.backend = none) (unusable : (reading s f.outside).1 = none)
    (batch : List Invalidation) : Refused s ⟨kind, batch, f⟩ := by
  have resolved : resolve s ⟨entered kind f, f.backend⟩ =
      (none, ⟨entered kind (f.afterReading s), (f.afterReading s).backend⟩) := by
    rw [resolve_entered kind unchosen, unusable]
  have ran := handle_forward (s := s) found batch f
  rw [forward_unusable resolved] at ran
  refine ⟨unchosen, unusable, ?_, ?_, ?_, ?_, ?_⟩
  · rw [Purger.Visit.after, ran]
    rfl
  · rw [Purger.Visit.after, ran]
    refine (Ledger.requests_note _ _).trans ((List.append_nil _).trans ?_)
    exact entered_requests kind (f.afterReading s)
  · rw [Purger.Visit.left, Purger.Visit.answer, ran]
    exact Invalidation.advanceEach_fail batch
  · rw [Purger.Visit.answer, ran]
    exact ⟨_, rfl⟩
  · rw [Purger.Visit.after, ran]
    exact unusable

end Visit

section Chosen
variable {s : Surroundings ε} {v : Backend}

theorem purgePagesFrom_withSettings (settings : StateM ε (Option VendorSettings))
    (batch : List Invalidation) :
    Fastly.purgePagesFrom v (withSettings s settings) batch = Fastly.purgePagesFrom v s batch := by
  induction batch with
  | nil => rfl
  | cons inv rest ih =>
      rw [Fastly.purgePagesFrom, Fastly.purgePagesFrom, ih]
      rfl

/-- Operations do not read the settings. -/
theorem operation_withSettings {kind : Kind} {operation : Operation ε}
    (found : operation? kind = some operation) (settings : StateM ε (Option VendorSettings))
    (batch : List Invalidation) :
    operation v (withSettings s settings) batch = operation v s batch := by
  cases kind with
  | wildcardUrl => cases found
  | tag | everything =>
      cases found
      rfl
  | url =>
      cases found
      simp only [Fastly.purgePages, purgePagesFrom_withSettings]
      rfl

theorem served_of_chosen {visit : Purger.Visit (Forwarder ε)}
    (supported : visit.kind ∈ (purger s).supported) (chosen : visit.before.backend = some v) :
    Served s v visit := by
  obtain ⟨operation, found⟩ := operation_of_supported supported
  obtain ⟨xs, treated⟩ := visit_treated s visit supported chosen
  refine ⟨chosen, ⟨operation, found, ?_⟩, fun settings => ?_, treated.done,
    treated.backend.trans chosen⟩
  · rw [handle_eq s found chosen, chosen]
  · rw [handle_eq s found chosen, handle_eq (withSettings s settings) found chosen,
      operation_withSettings found]

end Chosen

/-- All of some visits were refused, or those before one that chose the backend of the others. -/
def Chosen (s : Surroundings ε) (visits : List (Purger.Visit (Forwarder ε)))
    (backend : Option Backend) : Prop :=
  (backend = none ∧ ∀ visit ∈ visits, Refused s visit) ∨
    ∃ refused first served v, visits = refused ++ first :: served ∧
      (∀ visit ∈ refused, Refused s visit) ∧ Chooses s v first ∧
      (∀ visit ∈ served, Served s v visit) ∧ backend = some v

section Runs
variable {s : Surroundings ε} {f f' : Forwarder ε} {visits : List (Purger.Visit (Forwarder ε))}

theorem Chosen.next {visit : Purger.Visit (Forwarder ε)}
    (chosen : Chosen s visits visit.before.backend)
    (supported : visit.kind ∈ (purger s).supported) :
    Chosen s (visits ++ [visit]) (visit.after (purger s)).backend := by
  rcases chosen with
    ⟨unchosen, refused⟩ | ⟨refused, first, served, v, rfl, before, chose, later, own⟩
  · obtain ⟨operation, found⟩ := operation_of_supported supported
    cases usable : (reading s visit.before.outside).1 with
    | none =>
        have next := refused_of_unusable found unchosen usable visit.batch
        refine .inl ⟨next.kept, List.forall_mem_append.mpr ⟨refused, ?_⟩⟩
        exact List.forall_mem_singleton.mpr next
    | some v =>
        have same := handle_afterReading found unchosen usable visit.batch
        have served : Served s v { visit with before := visit.before.afterReading s } :=
          served_of_chosen supported usable
        refine .inr ⟨visits, visit, [], v, rfl, refused, ⟨unchosen, usable, served, same⟩, ?_, ?_⟩
        · exact fun _ among => absurd among List.not_mem_nil
        · rw [Purger.Visit.after, same]
          exact served.kept
  · have next := served_of_chosen supported own
    refine .inr ⟨refused, first, served ++ [visit], v, ?_, before, chose, ?_, next.kept⟩
    · rw [List.append_assoc, List.cons_append]
    · exact List.forall_mem_append.mpr ⟨later, List.forall_mem_singleton.mpr next⟩

theorem Visited.choice (run : Visited s f visits f') (unchosen : f.backend = none) :
    Chosen s visits f'.backend := by
  induction run with
  | start => exact .inl ⟨unchosen, fun _ among => absurd among List.not_mem_nil⟩
  | wait _ _ _ ih => exact ih
  | visit visit _ supported ih => exact ih.next supported

theorem Chooses.done {v : Backend} {visit : Purger.Visit (Forwarder ε)}
    (chooses : Chooses s v visit) : (visit.answer (purger s)).2 = .done := by
  rw [Purger.Visit.answer, chooses.same]
  exact chooses.served.done

/-- Visits report a fault only if the first of them was refused. -/
theorem Chosen.done {visit : Purger.Visit (Forwarder ε)} {backend : Option Backend}
    (chosen : Chosen s (visit :: visits) backend)
    (usable : (reading s visit.before.outside).1 ≠ none) :
    ∀ other ∈ visit :: visits, (other.answer (purger s)).2 = .done := by
  rcases chosen with ⟨-, refused⟩ | ⟨refused, first, served, v, split, before, chose, later, -⟩
  · exact absurd (refused visit List.mem_cons_self).unusable usable
  · cases refused with
    | cons other rest =>
        rw [List.cons_append] at split
        obtain rfl := (List.cons.inj split).1
        exact absurd (before visit List.mem_cons_self).unusable usable
    | nil =>
        rw [split]
        exact List.forall_mem_cons.mpr ⟨chose.done, fun other among => (later other among).done⟩

theorem dispatch_ending {invs : List Invalidation} (nonempty : invs ≠ [])
    (supported : ∀ inv ∈ invs, inv.kind ∈ (purger s).supported) (f : Forwarder ε) :
    (f.backend = none ∧ (reading s f.outside).1 = none ∧
        ∃ text, ((purger s).dispatch invs f).1.2 = .failed (.configuration text)) ∨
      ((f.backend ≠ none ∨ (reading s f.outside).1 ≠ none) ∧
        ((purger s).dispatch invs f).1.2 = .done) := by
  have returns : ∀ inv ∈ invs, (purger s).Returns inv.kind := fun inv among =>
    purger_returns s (supported inv among)
  obtain ⟨visits, routed, -⟩ :=
    Purger.dispatchKinds_routed (purger s) Kind.nodup_all returns none f
  rw [Purger.dispatch_of_supported _ supported, routed.ending]
  have supported' : ∀ visit ∈ visits, visit.kind ∈ (purger s).supported := by
    intro visit among
    obtain ⟨-, inv, submitted, own⟩ := batch_of_routed routed among
    exact own ▸ supported inv submitted
  have reached := Visited.start.chain supported' routed.chained
  rw [List.nil_append] at reached
  cases own : f.backend with
  | some v =>
      exact .inr ⟨.inl nofun, Purger.endingOf_of_done (reached.chosen own).2⟩
  | none =>
      cases visits with
      | nil =>
          obtain ⟨inv, inside⟩ := List.exists_mem_of_ne_nil invs nonempty
          obtain ⟨i, at_i⟩ := List.mem_iff_getElem?.mp inside
          obtain ⟨visit, among, -⟩ := routed.settled i inv at_i inv.kind.mem_all
          exact absurd among List.not_mem_nil
      | cons visit rest =>
          obtain rfl : visit.before = f := (List.cons.inj routed.chained).1
          have chosen := reached.choice own
          cases usable : (reading s visit.before.outside).1 with
          | some v =>
              exact .inr ⟨.inr nofun,
                Purger.endingOf_of_done (chosen.done (by rw [usable]; nofun))⟩
          | none =>
              obtain ⟨operation, found⟩ :=
                operation_of_supported (supported' visit List.mem_cons_self)
              obtain ⟨text, failed⟩ := (refused_of_unusable found own usable visit.batch).ending
              refine .inl ⟨rfl, rfl, text, ?_⟩
              rw [List.findSome?_cons, Purger.Visit.fault?, failed]
              rfl

end Runs

/-- For every run of visits, whatever the platform answers at each time: the visits are refused for
as long as the readings of the settings make no backend, the first that does chooses it, and all
later visits are served by it without reading the settings. A dispatch reports a fault, which is one
of configuration, just when there is no backend and the settings make none. -/
theorem resolves_once (s : Surroundings ε) {f f' : Forwarder ε} (unchosen : f.backend = none)
    {visits : List (Purger.Visit (Forwarder ε))} (run : Visited s f visits f') :
    Chosen s visits f'.backend ∧
      ∀ invs : List Invalidation, invs ≠ [] →
        (∀ inv ∈ invs, inv.kind ∈ (purger s).supported) →
        ((∃ fault, ((purger s).dispatch invs f').1.2 = .failed fault) ↔
            f'.backend = none ∧ (reading s f'.outside).1 = none) ∧
          (((purger s).dispatch invs f').1.2 = .done ∨
            ∃ text, ((purger s).dispatch invs f').1.2 = .failed (.configuration text)) := by
  refine ⟨run.choice unchosen, fun invs nonempty supported => ?_⟩
  rcases dispatch_ending nonempty supported f' with
    ⟨open_, unusable, text, failed⟩ | ⟨usable, done⟩
  · exact ⟨⟨fun _ => ⟨open_, unusable⟩, fun _ => ⟨_, failed⟩⟩, .inr ⟨text, failed⟩⟩
  · refine ⟨⟨?_, fun ⟨open_, unusable⟩ => ?_⟩, .inl done⟩
    · rintro ⟨fault, failed⟩
      rw [done] at failed
      cases failed
    · exact absurd unusable (usable.resolve_left fun chosen => chosen open_)

theorem reading_rehearsal (r : Rehearsal) :
    reading Rehearsal.surroundings r = (select r.vendorSettings r.siteIdentifier, r) := by
  simp only [reading]
  generalize select = choose
  rfl

/-- Settings that come late: the first visit is refused, the second chooses, and a dispatch after
that ends well. -/
theorem resolves_once_late :
    let s := Rehearsal.surroundings
    let settings := ((VendorSettings.ofVendor "fastly").withSetting "service_id"
      "service").withSetting "token" "token"
    let without : Rehearsal := ⟨[], "site-a", none, Rehearsal.opening, [], [], true⟩
    let tag := Invalidation.ofId 0 .tag "a"
    let first : Purger.Visit (Forwarder Rehearsal) := ⟨.tag, [tag], .start without⟩
    let second : Purger.Visit (Forwarder Rehearsal) :=
      ⟨.tag, [tag], (first.after (purger s)).within { without with vendorSettings := settings }⟩
    Refused s first ∧ (∃ v, Chooses s v second) ∧
      ((purger s).dispatch [tag] (second.after (purger s))).1.2 = .done := by
  intro s settings without tag first second
  have supported : Kind.tag ∈ (purger s).supported := List.mem_cons_self
  have none_ : (reading s first.before.outside).1 = none := by
    rw [reading_rehearsal]
    rfl
  have refused : Refused s first := refused_of_unusable rfl rfl none_ [tag]
  have later : s.clock (first.after (purger s)).outside ≤
      s.clock { without with vendorSettings := settings } := by
    rw [refused.read, reading_rehearsal]
    exact Nat.le_refl _
  have run : Visited s first.before [first, second] (second.after (purger s)) :=
    ((Visited.start.visit first supported).wait _ later).visit second supported
  have usable : (reading s second.before.outside).1 ≠ none := by
    rw [Forwarder.outside_within, Option.ne_none_iff_isSome]
    decide +kernel
  obtain ⟨chosen, ends⟩ := resolves_once s rfl run
  obtain ⟨failed, ended⟩ := ends [tag] (List.cons_ne_nil _ _) (by decide)
  rcases chosen with ⟨-, refused⟩ | ⟨others, x, served, v, split, before, chooses, -, own⟩
  · exact absurd (refused second (by simp)).unusable usable
  · have settled : ¬∃ fault, ((purger s).dispatch [tag]
        (second.after (purger s))).1.2 = .failed fault := by
      rw [failed, own]
      exact fun absent => nomatch absent.1
    have done := ended.resolve_right fun ⟨text, other⟩ => settled ⟨_, other⟩
    cases others with
    | nil =>
        have same : first = x := (List.cons.inj split).1
        rw [← same] at chooses
        exact absurd (none_.symm.trans chooses.usable) nofun
    | cons a rest =>
        have tail : [second] = rest ++ x :: served := (List.cons.inj split).2
        cases rest with
        | nil =>
            have same : second = x := (List.cons.inj tail).1
            rw [← same] at chooses
            exact ⟨refused, ⟨v, chooses⟩, done⟩
        | cons b rest => simp at tail

end CachePurge.Vendor
