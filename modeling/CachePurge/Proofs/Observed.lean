import CachePurge.Proofs.Fleet.Observed
import CachePurge.Proofs.Vendor.Observed
import CachePurge.Rehearsal

/-!
What observers are told of whole dispatches, by either purger: one bracket for each kind that
occurs, in the order of the kinds. Only a fleet's purger whose fan-out is refused breaks off before
all kinds have been told of.
-/

namespace CachePurge

variable {ε : Type}

/-- For any surroundings and any list: a fleet's purger, by any sender whose attempts go and end in
some order that the fan-out allows, its own sender among them, tells one bracket for each kind that
occurs, in the order of the kinds, and in it each attempt that failed, once, under the number of its
group, the id of its page or its address; but if its concurrency is beyond the limit, the first kind
that has anything to fan out is told without a failure, and those after it are not told at all. A
vendor's purger tells one bracket for each kind, in which there is the fault that the backend's
operation returned, under the name of the handler, and nothing if there is none or no backend. -/
theorem dispatches_bracketed (s : Surroundings ε) :
    (∀ (setting : Nat) (made : Fleet.Making s) (send : Fleet.Sender ε), send.Tells setting made →
      ∀ (size : Nat) (invs : List Invalidation) (l : Ledger ε),
        ∃ visits, Fleet.Observed setting made send size invs l visits) ∧
    (∀ pace : Fleet.Pace,
      Fleet.purger s pace = Fleet.purgerBy (.fanOut s pace.concurrency) s pace.groupSize ∧
        (Fleet.Sender.fanOut s pace.concurrency).Tells pace.concurrency (.inTurn s)) ∧
    ∀ (invs : List Invalidation) (f : Vendor.Forwarder ε),
      (∀ inv ∈ invs, inv.kind ∈ (Vendor.purger s).supported) →
        ∃ visits, Vendor.Observed s invs f visits :=
  ⟨fun _ _ _ tells size invs l => Fleet.dispatch_observed tells size invs l,
    fun pace => ⟨rfl, Fleet.Sender.fanOut_tells s pace.concurrency⟩,
    fun _ f supported => Vendor.dispatch_observed s supported f⟩

/-- An address that cannot be read is a failed attempt on the site. With one more permit than can be
given out a page before it is told without a failure, and the site is not told of. A vendor without
settings has no backend: its handler of tags returns with a fault and tells nothing of it. -/
theorem dispatches_bracketed_mixed :
    let fleet : Rehearsal := ⟨[""], "site-a", none, 0, ⟨[], [], true⟩⟩
    let site := Invalidation.ofId 1 .everything ""
    let page := Invalidation.ofId 2 .url "https://example.com/"
    let edge (concurrency : Nat) (invs : List Invalidation) :=
      (Fleet.purger Rehearsal.surroundings ⟨15, concurrency⟩).dispatch invs (.start fleet)
    let vendor := (Vendor.purger Rehearsal.surroundings).dispatch [.ofId 3 .tag "a"] (.start fleet)
    (∃ fault, Fleet.notices (edge 8 [site]).2 =
      [.enter "invalidate_everything", .failed "" fault, .exit "invalidate_everything"]) ∧
    (edge (Fanout.maxConcurrency + 1) [site, page]).1.2 = .panicked Fanout.tooManyPermits ∧
      Fleet.notices (edge (Fanout.maxConcurrency + 1) [site, page]).2 =
        [.enter "invalidate_urls", .exit "invalidate_urls"] ∧
    vendor.2.notices = [.enter "invalidate_tags", .exit "invalidate_tags"] := by
  intro fleet site page edge vendor
  obtain ⟨edges, own, vendors⟩ := dispatches_bracketed Rehearsal.surroundings
  have failed : (Fleet.siteRequest "site-a" "").isOk = false := by decide +kernel
  cases unread : Fleet.siteRequest "site-a" "" with
  | ok request =>
      rw [unread] at failed
      cases failed
  | error fault =>
      have attempted : (Fleet.Making.inTurn Rehearsal.surroundings).attempts 15 .everything [site]
          fleet = Fleet.inTurn Rehearsal.surroundings [("", .error fault)] fleet := by
        rw [← unread]
        rfl
      obtain ⟨visits, observed⟩ := edges _ _ _ (own ⟨15, 8⟩).2 15 [site] (.start fleet)
      obtain ⟨failures, perm, told⟩ :=
        observed.only (by decide) (by decide : _ = [Kind.everything])
      obtain ⟨others, refusing⟩ :=
        edges _ _ _ (own ⟨15, Fanout.maxConcurrency + 1⟩).2 15 [site, page] (.start fleet)
      obtain ⟨panicked, refused⟩ :=
        refusing.refused (by decide : _ = [Kind.url, .everything]) (by decide)
      obtain ⟨calls, forwarded⟩ := vendors [.ofId 3 .tag "a"] (.start fleet) (by decide)
      obtain ⟨call, rfl, kind⟩ := List.map_eq_singleton_iff.mp
        (forwarded.kinds.trans (by decide : _ = [Kind.tag]))
      obtain ⟨same, forwards⟩ := forwarded.toRecorded.single
      rw [kind] at same
      have silent := (forwarded.unresolved call List.mem_cons_self (by rw [same]; rfl)).2
      refine ⟨⟨fault, ?_⟩, panicked, refused, ?_⟩
      · have only : failures.Perm [("", fault)] :=
          perm.trans (.of_eq (congrArg Fanout.failures attempted))
        rw [List.perm_singleton.mp only] at told
        exact told
      · rw [silent, kind] at forwards
        exact forwards

end CachePurge
