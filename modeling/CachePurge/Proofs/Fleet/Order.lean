import CachePurge.Proofs.Fleet.Sender
import CachePurge.Proofs.Lockstep
import CachePurge.Proofs.Purger.Routing

/-!
What a fleet's purger does depends neither on how many requests it makes at once nor on the order in
which they end. Two dispatches of a list, each by a sender that goes in any order under a setting of
its own, go side by side: they end alike and leave the same states, requests and counts behind. Only
a setting beyond the limit makes a difference, and only if there is anything to be fanned out.
-/

namespace CachePurge.Fleet

variable {ε π : Type}

/-- Two ledgers have gone on from two others by the same requests, in any order, and by the same
counts, with the platforms' memories alike. -/
structure Abreast (memory : ε → π) (l₁ l₂ l l' : Ledger ε) : Prop where
  memory : memory l.outside = memory l'.outside
  sent : ∃ sent sent', l.requests = l₁.requests ++ sent ∧ l'.requests = l₂.requests ++ sent' ∧
    sent.Perm sent'
  counted : l₁.tally.rise l.tally = l₂.tally.rise l'.tally

section Abreast
variable {memory : ε → π} {l₁ l₂ l l' m m' : Ledger ε}

/-- Nothing was sent on either side. -/
theorem Abreast.unsent (same : memory l.outside = memory l'.outside)
    (quiet : l.requests = l₁.requests) (quiet' : l'.requests = l₂.requests)
    (counted : l₁.tally.rise l.tally = l₂.tally.rise l'.tally) : Abreast memory l₁ l₂ l l' where
  memory := same
  sent := ⟨[], [], by rw [quiet, List.append_nil], by rw [quiet', List.append_nil], .refl _⟩
  counted := counted

theorem Abreast.start (same : memory l₁.outside = memory l₂.outside) :
    Abreast memory l₁ l₂ l₁ l₂ :=
  .unsent same rfl rfl (by rw [Tally.rise_refl, Tally.rise_refl])

theorem Abreast.trans (first : Abreast memory l₁ l₂ l l') (second : Abreast memory l l' m m') :
    Abreast memory l₁ l₂ m m' where
  memory := second.memory
  sent := by
    obtain ⟨sent, sent', listed, listed', perm⟩ := first.sent
    obtain ⟨more, more', further, further', perm'⟩ := second.sent
    refine ⟨sent ++ more, sent' ++ more', ?_, ?_, perm.append perm'⟩
    · rw [further, listed, List.append_assoc]
    · rw [further', listed', List.append_assoc]
  counted := by
    rw [l₁.tally.rise_trans l.tally, l₂.tally.rise_trans l'.tally, first.counted, second.counted]

/-- Programs go side by side if they do so by what they add to any two ledgers. -/
theorem Abreast.lockstep {α β : Type} {ρ : α → β → Prop} {x : StateM (Ledger ε) α}
    {y : StateM (Ledger ε) β}
    (step : ∀ l l', memory l.outside = memory l'.outside →
      ρ (x l).1 (y l').1 ∧ Abreast memory l l' (x l).2 (y l').2) :
    Lockstep ρ (Abreast memory l₁ l₂) x y := by
  intro l l' same
  obtain ⟨related, further⟩ := step l l' same.memory
  exact ⟨related, same.trans further⟩

theorem count_lockstep (success : Bool) (n : Nat) :
    Lockstep Eq (Abreast memory l₁ l₂) (Ledger.count success n) (Ledger.count success n) := by
  refine Abreast.lockstep fun l l' same => ⟨rfl, .unsent same rfl rfl ?_⟩
  exact (l.tally.rise_outcome success n).trans (l'.tally.rise_outcome success n).symm

/-- How long a request took does not matter to the counters. -/
theorem countRequest_lockstep (success : Bool) (latency latency' : Latency) :
    Lockstep Eq (Abreast memory l₁ l₂) (Ledger.countRequest success latency)
      (Ledger.countRequest success latency') := by
  refine Abreast.lockstep fun l l' same => ⟨rfl, .unsent same rfl rfl ?_⟩
  exact (l.tally.rise_request success latency).trans (l'.tally.rise_request success latency').symm

theorem note_lockstep {event event' : Event} (silent : event.request? = none)
    (silent' : event'.request? = none) :
    Lockstep Eq (Abreast memory l₁ l₂) (Ledger.note event) (Ledger.note event') := by
  refine Abreast.lockstep fun l l' same => ⟨rfl, .unsent same ?_ ?_ ?_⟩
  · rw [Ledger.requests_note, silent, Option.toList_none, List.append_nil]
  · rw [Ledger.requests_note, silent', Option.toList_none, List.append_nil]
  · exact (Tally.rise_refl _).trans (Tally.rise_refl _).symm

theorem ask_lockstep {α : Type} {question : StateM ε α}
    (alike : ∀ e e', memory e = memory e' →
      (question e).1 = (question e').1 ∧ memory (question e).2 = memory (question e').2) :
    Lockstep Eq (Abreast memory l₁ l₂) (Ledger.ask question) (Ledger.ask question) := by
  refine Abreast.lockstep fun l l' same => ?_
  obtain ⟨answer, kept⟩ := alike _ _ same
  exact ⟨answer, .unsent kept rfl rfl ((Tally.rise_refl _).trans (Tally.rise_refl _).symm)⟩

end Abreast

section Sending
variable {memory : ε → π} {reply : Http.Message → Http.Reply} {setting₁ setting₂ : Nat}
  {l₁ l₂ : Ledger ε}

/-- Sending broke off the same way, or gave every key the same success. -/
def SameSuccess {κ : Type} [BEq κ] :
    Except Panic (Fanout.Results κ) → Except Panic (Fanout.Results κ) → Prop
  | .ok results, .ok results' => ∀ key, results.succeeded key = results'.succeeded key
  | .error panic, .error panic' => panic = panic'
  | .ok _, .error _ | .error _, .ok _ => False

theorem Goes.lockstep {κ : Type} [DecidableEq κ]
    {send₁ send₂ : List (κ × Except Fault Http.Request) →
      StateM (Ledger ε) (Except Panic (Fanout.Results κ))}
    (goes₁ : Goes memory reply setting₁ send₁) (goes₂ : Goes memory reply setting₂ send₂)
    (agree : setting₁ ≤ Fanout.maxConcurrency ↔ setting₂ ≤ Fanout.maxConcurrency)
    (requests : List (κ × Except Fault Http.Request)) :
    Lockstep SameSuccess (Abreast memory l₁ l₂) (send₁ requests) (send₂ requests) := by
  refine Abreast.lockstep fun l l' same => ?_
  by_cases within : setting₁ ≤ Fanout.maxConcurrency
  · obtain ⟨results₁, m, run, success, total, failed, gains, kept, sent, listed, perm⟩ :=
      goes₁.within within requests l
    obtain ⟨results₂, m', run', success', total', failed', gains', kept', sent', listed', perm'⟩ :=
      goes₂.within (agree.mp within) requests l'
    rw [run, run']
    refine ⟨fun key => ?_, ?_, ⟨sent, sent', listed, listed', perm.trans perm'.symm⟩, ?_⟩
    · rw [Bool.eq_iff_iff, success, success']
    · exact kept.trans (same.trans kept'.symm)
    · simp only [Tally.rise, total, total', failed, failed', gains.succeeded, gains'.succeeded,
        gains.failed, gains'.failed, Tally.grown]
  · have beyond := Nat.lt_of_not_le within
    have beyond' := Nat.lt_of_not_le fun within' => within (agree.mpr within')
    rw [goes₁.beyond beyond, goes₂.beyond beyond']
    exact ⟨rfl, .start same⟩

end Sending

section Handlers
variable {s : Surroundings ε} {memory : ε → π} {reply : Http.Message → Http.Reply}
  {setting₁ setting₂ : Nat} {send₁ send₂ : Sender ε} {l₁ l₂ : Ledger ε}

theorem settleTags_lockstep {results results' : Fanout.Results Nat}
    (same : ∀ key, results.succeeded key = results'.succeeded key)
    (groups : List (List Invalidation)) (batch : List Invalidation) :
    Lockstep Eq (Abreast memory l₁ l₂) (settleTags groups results batch)
      (settleTags groups results' batch) := by
  simp only [settleTags, same]
  exact (Lockstep.forM (fun _ => count_lockstep _ _) _).bind_eq fun _ => .pure rfl

theorem settlePages_lockstep {results results' : Fanout.Results Uuid}
    (same : ∀ key, results.succeeded key = results'.succeeded key) (batch : List Invalidation) :
    Lockstep Eq (Abreast memory l₁ l₂) (settlePages results batch)
      (settlePages results' batch) := by
  simp only [settlePages, same]
  refine Lockstep.mapM (fun inv => ?_) batch
  split
  · exact .pure rfl
  · exact (count_lockstep _ _).bind_eq fun _ => .pure rfl

theorem admitTags_lockstep (batch : List Invalidation) :
    Lockstep (fun a b => a = batch.map admitTag ∧ b = batch.map admitTag)
      (Abreast memory l₁ l₂) (admitTags batch) (admitTags batch) := by
  intro l l' same
  refine ⟨⟨(admitTags_tallies batch l).1, (admitTags_tallies batch l').1⟩, ?_⟩
  refine (Lockstep.mapM (fun inv => ?_) batch l l' same).2
  cases isSendable inv with
  | true => exact .pure rfl
  | false => exact (count_lockstep false 1).bind_eq fun _ => .pure rfl

/-- The way a request to the whole site ends does not depend on when it is made. -/
theorem purgeSiteAt_lockstep (separate : Separate s memory reply) (site address : String) :
    Lockstep Eq (Abreast memory l₁ l₂) (purgeSiteAt s site address)
      (purgeSiteAt s site address) := by
  have sent : Lockstep (fun a b => a.2.isSuccess = b.2.isSuccess) (Abreast memory l₁ l₂)
      (exchange s (siteRequest site address)) (exchange s (siteRequest site address)) := by
    refine Abreast.lockstep fun l l' same => ?_
    obtain ⟨success, kept⟩ := exchange_acknowledges separate (siteRequest site address) l
    obtain ⟨success', kept'⟩ := exchange_acknowledges separate (siteRequest site address) l'
    refine ⟨success.trans success'.symm, kept.trans (same.trans kept'.symm), ?_, ?_⟩
    · exact ⟨_, _, exchange_requests s _ l, exchange_requests s _ l', .refl _⟩
    · rw [exchange_tally, exchange_tally, Tally.rise_refl, Tally.rise_refl]
  refine sent.bind fun a b same => ?_
  obtain ⟨took, outcome⟩ := a
  obtain ⟨took', outcome'⟩ := b
  simp only [Fanout.Outcome.isSuccess] at same ⊢
  rw [same]
  refine (countRequest_lockstep _ _ _).bind_eq fun _ => ?_
  cases h : outcome.fault? <;> cases h' : outcome'.fault? <;> rw [h, h'] at same
  · exact .pure rfl
  · cases same
  · cases same
  · exact (note_lockstep rfl rfl).bind_eq fun _ => .pure rfl

theorem purgeSite_lockstep (separate : Separate s memory reply) (batch : List Invalidation) :
    Lockstep Eq (Abreast memory l₁ l₂) (purgeSite s batch) (purgeSite s batch) := by
  refine (ask_lockstep separate.addresses).bind_eq fun addresses => ?_
  refine (ask_lockstep separate.site).bind_eq fun site => ?_
  refine (Lockstep.mapM (purgeSiteAt_lockstep separate site) addresses).bind_eq fun _ => ?_
  exact (count_lockstep _ _).bind_eq fun _ => .pure rfl

variable (separate : Separate s memory reply) (goes₁ : send₁.Goes memory reply setting₁)
  (goes₂ : send₂.Goes memory reply setting₂)
include separate goes₁ goes₂

section Agree
variable (agree : setting₁ ≤ Fanout.maxConcurrency ↔ setting₂ ≤ Fanout.maxConcurrency)
include agree

theorem banGroupsBy_lockstep (salt : String) (groups : List (List Invalidation))
    (batch : List Invalidation) :
    Lockstep Eq (Abreast memory l₁ l₂) (banGroupsBy send₁ s salt groups batch)
      (banGroupsBy send₂ s salt groups batch) := by
  refine (ask_lockstep separate.addresses).bind_eq fun addresses => ?_
  refine (ask_lockstep separate.site).bind_eq fun site => ?_
  refine (goes₁.1.lockstep goes₂.1 agree _).bind fun sent sent' same => ?_
  match sent, sent', same with
  | .error _, .error _, same => exact .pure (congrArg (batch, Ending.panicked ·) same)
  | .ok _, .ok _, same => exact (settleTags_lockstep same groups batch).bind_eq fun _ => .pure rfl

theorem purgePagesBy_lockstep (m : PageMethod) (batch : List Invalidation) :
    Lockstep Eq (Abreast memory l₁ l₂) (purgePagesBy send₁ s m batch)
      (purgePagesBy send₂ s m batch) := by
  refine (ask_lockstep separate.addresses).bind_eq fun addresses => ?_
  refine (ask_lockstep separate.site).bind_eq fun site => ?_
  refine (goes₁.2.lockstep goes₂.2 agree _).bind fun sent sent' same => ?_
  match sent, sent', same with
  | .error _, .error _, same =>
      exact .pure (congrArg (batch.map admitPage, Ending.panicked ·) same)
  | .ok _, .ok _, same => exact (settlePages_lockstep same _).bind_eq fun _ => .pure rfl

end Agree

theorem purgeTagsBy_lockstep (size : Nat) {batch : List Invalidation}
    (fit : (setting₁ ≤ Fanout.maxConcurrency ↔ setting₂ ≤ Fanout.maxConcurrency) ∨
      ∀ inv ∈ batch, isSendable inv = false) :
    Lockstep Eq (Abreast memory l₁ l₂) (purgeTagsBy send₁ s size batch)
      (purgeTagsBy send₂ s size batch) := by
  refine (admitTags_lockstep batch).bind ?_
  rintro _ _ ⟨rfl, rfl⟩
  refine (ask_lockstep separate.site).bind_eq fun salt => ?_
  simp only [isEmpty_admittedGroups]
  cases any : batch.any isSendable with
  | false => exact .pure rfl
  | true =>
      refine banGroupsBy_lockstep separate goes₁ goes₂ (fit.resolve_right fun none => ?_) _ _ _
      obtain ⟨inv, inside, sendable⟩ := List.any_eq_true.mp any
      rw [none inv inside] at sendable
      cases sendable

/-- Whether settings agree about the limit matters only to a batch that is fanned out. -/
theorem handleBy_lockstep (size : Nat) {kind : Kind} {batch : List Invalidation}
    (nonempty : batch ≠ []) (fit : ∀ inv ∈ batch, inv.kind = kind ∧
      ((setting₁ ≤ Fanout.maxConcurrency ↔ setting₂ ≤ Fanout.maxConcurrency) ∨
        fansOut inv = false)) :
    Lockstep Eq (Abreast memory l₁ l₂) (handleBy send₁ s size kind batch)
      (handleBy send₂ s size kind batch) := by
  obtain ⟨first, inside⟩ := List.exists_mem_of_ne_nil batch nonempty
  obtain ⟨own, settings⟩ := fit first inside
  cases kind with
  | tag =>
      refine purgeTagsBy_lockstep separate goes₁ goes₂ size ?_
      refine or_iff_not_imp_left.mpr fun differ inv among => ?_
      have quiet := (fit inv among).2.resolve_left differ
      rwa [fansOut, (fit inv among).1] at quiet
  | url | wildcardUrl =>
      refine purgePagesBy_lockstep separate goes₁ goes₂ (settings.resolve_right fun quiet => ?_) _ _
      rw [fansOut, own] at quiet
      cases quiet
  | everything => exact purgeSite_lockstep separate batch

theorem purgerBy_lockstep (size : Nat) {kind : Kind} {batch : List Invalidation}
    (nonempty : batch ≠ []) (fit : ∀ inv ∈ batch, inv.kind = kind ∧
      ((setting₁ ≤ Fanout.maxConcurrency ↔ setting₂ ≤ Fanout.maxConcurrency) ∨
        fansOut inv = false)) :
    Lockstep Eq (Abreast memory l₁ l₂) ((purgerBy send₁ s size).handle kind batch)
      ((purgerBy send₂ s size).handle kind batch) := by
  refine (note_lockstep rfl rfl).bind_eq fun _ => ?_
  refine Lockstep.bind_eq ?_ fun _ => (note_lockstep rfl rfl).bind_eq fun _ => .pure rfl
  exact (handleBy_lockstep separate goes₁ goes₂ size nonempty fit).bind_eq fun _ => .pure rfl

end Handlers

section Endings
variable {s : Surroundings ε} {memory : ε → π} {reply : Http.Message → Http.Reply} {setting : Nat}
  {send : Sender ε}

theorem ending_purgerBy (size : Nat) (kind : Kind) (batch : List Invalidation) (l : Ledger ε) :
    ((purgerBy send s size).handle kind batch l).1.2 =
      (handleBy send s size kind batch (Ledger.note (.enter kind) l).2).1.2 := rfl

section Within
variable (goes : send.Goes memory reply setting) (within : setting ≤ Fanout.maxConcurrency)
include goes within

theorem banGroupsBy_done (salt : String) (groups : List (List Invalidation))
    (batch : List Invalidation) (l : Ledger ε) :
    (banGroupsBy send s salt groups batch l).1.2 = .done := by
  obtain ⟨results, l', run, -⟩ := goes.1.within within _ _
  simp only [banGroupsBy, bind_apply]
  rw [run]
  rfl

theorem purgeTagsBy_done (size : Nat) (batch : List Invalidation) (l : Ledger ε) :
    (purgeTagsBy send s size batch l).1.2 = .done := by
  simp only [purgeTagsBy, bind_apply]
  split
  · rfl
  · exact banGroupsBy_done goes within _ _ _ _

theorem purgePagesBy_done (m : PageMethod) (batch : List Invalidation) (l : Ledger ε) :
    (purgePagesBy send s m batch l).1.2 = .done := by
  obtain ⟨results, l', run, -⟩ := goes.2.within within _ _
  simp only [purgePagesBy, bind_apply]
  rw [run]
  rfl

theorem purgerBy_done (size : Nat) (kind : Kind) (batch : List Invalidation) (l : Ledger ε) :
    ((purgerBy send s size).handle kind batch l).1.2 = .done := by
  rw [ending_purgerBy]
  cases kind with
  | tag => exact purgeTagsBy_done goes within size batch _
  | url => exact purgePagesBy_done goes within exact batch _
  | wildcardUrl => exact purgePagesBy_done goes within pattern batch _
  | everything => rfl

end Within

section Beyond
variable (goes : send.Goes memory reply setting) (beyond : Fanout.maxConcurrency < setting)
include goes beyond

theorem banGroupsBy_beyond (salt : String) (groups : List (List Invalidation))
    (batch : List Invalidation) (l : Ledger ε) :
    (banGroupsBy send s salt groups batch l).1.2 = .panicked Fanout.tooManyPermits := by
  simp only [banGroupsBy, bind_apply, goes.1.beyond beyond]
  rfl

theorem purgeTagsBy_beyond (size : Nat) (batch : List Invalidation) (l : Ledger ε) :
    (purgeTagsBy send s size batch l).1.2 =
      if batch.any isSendable then .panicked Fanout.tooManyPermits else .done := by
  simp only [purgeTagsBy, bind_apply, (admitTags_tallies batch l).1, isEmpty_admittedGroups]
  cases batch.any isSendable with
  | false => rfl
  | true => exact banGroupsBy_beyond goes beyond _ _ _ _

theorem purgePagesBy_beyond (m : PageMethod) (batch : List Invalidation) (l : Ledger ε) :
    (purgePagesBy send s m batch l).1.2 = .panicked Fanout.tooManyPermits := by
  simp only [purgePagesBy, bind_apply, goes.2.beyond beyond]
  rfl

/-- Beyond the limit a handler breaks off just when there is something to be fanned out. -/
theorem purgerBy_beyond (size : Nat) {kind : Kind} {batch : List Invalidation}
    (nonempty : batch ≠ []) (own : ∀ inv ∈ batch, inv.kind = kind) (l : Ledger ε) :
    ((purgerBy send s size).handle kind batch l).1.2 =
      if batch.any fansOut then .panicked Fanout.tooManyPermits else .done := by
  obtain ⟨first, inside⟩ := List.exists_mem_of_ne_nil batch nonempty
  have some (all : ∀ inv : Invalidation, inv.kind = kind → fansOut inv = true) :
      batch.any fansOut = true :=
    List.any_eq_true.mpr ⟨first, inside, all first (own first inside)⟩
  rw [ending_purgerBy]
  cases kind with
  | tag =>
      rw [any_fansOut_of_tag own]
      exact purgeTagsBy_beyond goes beyond size batch _
  | url =>
      rw [some fun inv kind => by rw [fansOut, kind]]
      exact purgePagesBy_beyond goes beyond exact batch _
  | wildcardUrl =>
      rw [some fun inv kind => by rw [fansOut, kind]]
      exact purgePagesBy_beyond goes beyond pattern batch _
  | everything =>
      have quiet : batch.any fansOut = false :=
        List.any_eq_false.mpr fun inv among => by simp [fansOut, own inv among]
      rw [quiet]
      rfl

end Beyond
end Endings

section Dispatch
variable {s : Surroundings ε} {memory : ε → π} {reply : Http.Message → Http.Reply}
  {setting : Nat} {send : Sender ε}

theorem dispatchBy_eq (send : Sender ε) (s : Surroundings ε) (size : Nat)
    (invs : List Invalidation) (l : Ledger ε) :
    (purgerBy send s size).dispatch invs l =
      (purgerBy send s size).dispatchKinds Kind.all none invs l :=
  Purger.dispatch_of_supported _ (fun inv _ => inv.kind.mem_all) l

theorem dispatchBy_done (goes : send.Goes memory reply setting)
    (within : setting ≤ Fanout.maxConcurrency) (size : Nat) (invs : List Invalidation)
    (l : Ledger ε) : ((purgerBy send s size).dispatch invs l).1.2 = .done := by
  rw [dispatchBy_eq]
  exact Purger.dispatchKinds_done (purgerBy_done goes within size) _ invs l

theorem dispatchBy_beyond (goes : send.Goes memory reply setting)
    (beyond : Fanout.maxConcurrency < setting) (size : Nat) {invs : List Invalidation}
    (some : ∃ inv ∈ invs, fansOut inv = true) (l : Ledger ε) :
    ((purgerBy send s size).dispatch invs l).1.2 = .panicked Fanout.tooManyPermits := by
  obtain ⟨inv, inside, fans⟩ := some
  obtain ⟨i, found⟩ := List.mem_iff_getElem?.mp inside
  rw [dispatchBy_eq]
  refine Purger.dispatchKinds_breaks ?_ Kind.all none l found inv.kind.mem_all fans
  exact fun kind batch l nonempty own => purgerBy_beyond goes beyond size nonempty own l

variable {setting₁ setting₂ : Nat} {send₁ send₂ : Sender ε} {l₁ l₂ : Ledger ε}

theorem dispatchBy_lockstep (separate : Separate s memory reply)
    (goes₁ : send₁.Goes memory reply setting₁) (goes₂ : send₂.Goes memory reply setting₂)
    (size : Nat) {invs : List Invalidation}
    (fit : (setting₁ ≤ Fanout.maxConcurrency ↔ setting₂ ≤ Fanout.maxConcurrency) ∨
      ∀ inv ∈ invs, fansOut inv = false) :
    Lockstep Eq (Abreast memory l₁ l₂) ((purgerBy send₁ s size).dispatch invs)
      ((purgerBy send₂ s size).dispatch invs) := by
  have side : Lockstep Eq (Abreast memory l₁ l₂)
      ((purgerBy send₁ s size).dispatchKinds Kind.all none invs)
      ((purgerBy send₂ s size).dispatchKinds Kind.all none invs) := by
    refine Lockstep.dispatchKinds ?_
      (fun kind batch nonempty => purgerBy_lockstep separate goes₁ goes₂ size nonempty)
      Kind.all none fun inv among => fit.imp_right fun quiet => quiet inv among
    exact fun inv inv' still => Or.imp_right (fansOut_still still).trans
  intro l l' same
  rw [dispatchBy_eq, dispatchBy_eq]
  exact side l l' same

end Dispatch

/-- Two dispatches of the same list, whose senders go in any orders under any settings, end the same
way with all invalidations in the same states, and after the same requests and counts, just when
their settings agree about the limit or nothing is to be fanned out. The purger's own dispatch is
such a one. -/
theorem dispatch_unordered {s : Surroundings ε} {memory : ε → π}
    {reply : Http.Message → Http.Reply} (separate : Separate s memory reply) (size : Nat)
    {setting₁ setting₂ : Nat} {send₁ send₂ : Sender ε} (goes₁ : send₁.Goes memory reply setting₁)
    (goes₂ : send₂.Goes memory reply setting₂) (invs : List Invalidation) {l₁ l₂ : Ledger ε}
    (alike : memory l₁.outside = memory l₂.outside) :
    let run₁ := (purgerBy send₁ s size).dispatch invs l₁
    let run₂ := (purgerBy send₂ s size).dispatch invs l₂
    (run₁.1 = run₂.1 ∧ Abreast memory l₁ l₂ run₁.2 run₂.2 ↔
      (setting₁ ≤ Fanout.maxConcurrency ↔ setting₂ ≤ Fanout.maxConcurrency) ∨
        ∀ inv ∈ invs, fansOut inv = false) ∧
    ∀ pace : Pace, (Sender.fanOut s pace.concurrency).Goes memory reply pace.concurrency ∧
      purgerBy (.fanOut s pace.concurrency) s pace.groupSize = purger s pace := by
  intro run₁ run₂
  refine ⟨⟨fun ⟨same, _⟩ => ?_, fun fit => ?_⟩, fun pace =>
    ⟨Sender.fanOut_goes separate _, purgerBy_fanOut s pace⟩⟩
  · have ending : run₁.1.2 = run₂.1.2 := congrArg Prod.snd same
    refine or_iff_not_imp_right.mpr fun loud => ?_
    have some : ∃ inv ∈ invs, fansOut inv = true := by simpa using loud
    by_cases within₁ : setting₁ ≤ Fanout.maxConcurrency <;>
      by_cases within₂ : setting₂ ≤ Fanout.maxConcurrency
    · exact iff_of_true within₁ within₂
    · have done := dispatchBy_done (s := s) goes₁ within₁ size invs l₁
      have broken := dispatchBy_beyond (s := s) goes₂ (Nat.lt_of_not_le within₂) size some l₂
      cases done.symm.trans (ending.trans broken)
    · have broken := dispatchBy_beyond (s := s) goes₁ (Nat.lt_of_not_le within₁) size some l₁
      have done := dispatchBy_done (s := s) goes₂ within₂ size invs l₂
      cases broken.symm.trans (ending.trans done)
    · exact iff_of_false within₁ within₂
  · exact dispatchBy_lockstep separate goes₁ goes₂ size fit l₁ l₂ (.start alike)

/-- Pages whose requests take ever longer: eight requests at once come to the same as one after the
other, and one permit more than can be given out does not. -/
theorem dispatch_unordered_limit :
    let s : Surroundings Nat := {
      edgeAddresses := pure ["10.0.0.1", "10.0.0.2:8080"]
      siteIdentifier := pure "site-a"
      vendorSettings := pure none
      now := pure 0
      deliver := fun _ took => (⟨true, took, .response 200 []⟩, took + 1) }
    let pages := ["https://example.com/", "/relative"].map (Invalidation.ofId 0 .url)
    let run (concurrency took : Nat) :=
      (purger s ⟨15, concurrency⟩).dispatch pages (.start took)
    ((run 1 9).1 = (run 8 0).1 ∧
      Abreast (fun _ => ()) (.start 9) (.start 0) (run 1 9).2 (run 8 0).2) ∧
    ¬((run 8 0).1 = (run (Fanout.maxConcurrency + 1) 0).1 ∧
      Abreast (fun _ => ()) (.start 0) (.start 0) (run 8 0).2
        (run (Fanout.maxConcurrency + 1) 0).2) := by
  intro s pages run
  have separate : Separate s (fun _ => ()) fun _ => .response 200 [] :=
    ⟨fun _ _ _ => ⟨rfl, rfl⟩, fun _ _ _ => ⟨rfl, rfl⟩, fun _ _ => rfl, fun _ _ => rfl⟩
  have goes := Sender.fanOut_goes separate
  refine ⟨?_, fun same => ?_⟩
  · exact (dispatch_unordered separate 15 (goes 1) (goes 8) pages rfl).1.mpr
      (.inl (iff_of_true (by decide) (by decide)))
  · have agree := (dispatch_unordered separate 15 (goes 8) (goes (Fanout.maxConcurrency + 1)) pages
      rfl).1.mp same
    rcases agree with agree | quiet
    · exact absurd (agree.mp (by decide)) (by decide)
    · cases quiet _ List.mem_cons_self

end CachePurge.Fleet
