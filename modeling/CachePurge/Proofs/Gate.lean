import CachePurge.Gate
import CachePurge.Proofs.Shared

/-!
What a gate shows after any number of closings by any of its clones: the last one as long as it
lasts, and nothing else.
-/

namespace CachePurge
namespace Gate

/-- Whichever limit a closing exceeds, it lasts until its time is over, or to the last instant. -/
theorem close_eq (now : Nat) (message : String) (ttl : Nat) :
    close now message ttl = ⟨some ⟨message, min (now + ttl) lastInstant⟩⟩ := by
  have far : lastInstant < longestSpan := by decide
  have ends : (after? now ((span? ttl).getD longestSpan)).getD lastInstant =
      min (now + ttl) lastInstant := by
    rw [span?]
    split
    · next told =>
        rw [Option.getD_some, after?]
        split
        · next early => rw [Option.getD_some, Nat.min_eq_left early]
        · next late => rw [Option.getD_none, Nat.min_eq_right (by omega)]
    · next long =>
        rw [Option.getD_none, after?, if_neg (by omega), Option.getD_none,
          Nat.min_eq_right (by omega)]
  rw [close, ends]

/-- At a time all that a gate shows is one closure, or that it is open. -/
structure Shows (gate : Gate) (now : Nat) (closure : Option Closure) : Prop where
  health : gate.health now = closure.map (·.message)
  isClosed : gate.isClosed now = closure.isSome
  message : gate.message now = (closure.map (·.message)).getD ""
  expiry : gate.expiry now = closure.map (·.endsAt)

theorem shows_current (gate : Gate) (now : Nat) : gate.Shows now (gate.current now) :=
  ⟨rfl, rfl, rfl, rfl⟩

theorem shows_clear (now : Nat) : clear.Shows now none := shows_current clear now

/-- A closed gate shows its closure before it ends, and as from then nothing. -/
theorem shows_closure (closure : Closure) (now : Nat) :
    (⟨some closure⟩ : Gate).Shows now (if now < closure.endsAt then some closure else none) := by
  have current : (⟨some closure⟩ : Gate).current now =
      if now < closure.endsAt then some closure else none := by
    rw [Gate.current, Option.filter_some]
    simp only [decide_eq_true_eq]
  rw [← current]
  exact shows_current _ now

/-- A gate is closed at some time with a message and for some duration. -/
structure Closing where
  moment : Nat
  message : String
  ttl : Nat

namespace Closing

def apply (_ : Gate) (closing : Closing) : Gate :=
  close closing.moment closing.message closing.ttl

/-- When a closing ends: exactly when its time is over, but no later than at the last instant. -/
def ends (closing : Closing) : Nat := min (closing.moment + closing.ttl) lastInstant

theorem apply_eq (gate : Gate) (closing : Closing) :
    apply gate closing = ⟨some ⟨closing.message, closing.ends⟩⟩ :=
  close_eq _ _ _

/-- Only the last closing is left of several. -/
theorem foldl_apply (gate : Gate) (earlier : List Closing) (last : Closing) :
    (earlier ++ [last]).foldl apply gate = ⟨some ⟨last.message, last.ends⟩⟩ := by
  rw [List.foldl_append, List.foldl_cons, List.foldl_nil, apply_eq]

theorem ends_bounds {closing : Closing} (told : closing.moment ≤ lastInstant) :
    closing.moment ≤ closing.ends ∧ closing.ends ≤ lastInstant := by
  rw [ends]
  omega

/-- The longer the duration the later the end. -/
theorem ends_mono (closing : Closing) {longer : Nat} (le : closing.ttl ≤ longer) :
    closing.ends ≤ { closing with ttl := longer }.ends := by
  simp only [ends]
  omega

end Closing

section History
variable {gates gates' : Shared Gate} {first : gates.Reference} {r : gates'.Reference}
  {closings : List Closing}

/-- Through each of its clones a gate shows what it was closed with the last time, until that ends,
and never again anything from before. -/
theorem shows_last (opened : gates.get first = clear)
    (uses : gates.Uses Closing.apply (gates.place first) closings gates')
    (told : ∀ closing ∈ closings, closing.moment ≤ lastInstant)
    (same : gates'.place r = gates.place first) :
    (closings = [] → ∀ now, (gates'.get r).Shows now none) ∧
      ∀ earlier last, closings = earlier ++ [last] →
        (gates'.get r).closure = some ⟨last.message, last.ends⟩ ∧
        (∀ now, now < last.ends → (gates'.get r).Shows now (some ⟨last.message, last.ends⟩)) ∧
        (∀ now, last.ends ≤ now → (gates'.get r).Shows now none) ∧
        last.moment ≤ last.ends ∧ last.ends ≤ lastInstant ∧
        ∀ longer, last.ttl ≤ longer → last.ends ≤ { last with ttl := longer }.ends := by
  have left := uses.get same
  rw [opened] at left
  constructor
  · rintro rfl now
    rw [left]
    exact shows_clear now
  · rintro earlier last rfl
    rw [Closing.foldl_apply] at left
    rw [left]
    obtain ⟨begins, instant⟩ := Closing.ends_bounds (told last (by simp))
    refine ⟨rfl, fun now early => ?_, fun now late => ?_, begins, instant,
      fun longer le => last.ends_mono le⟩
    · have shows := shows_closure ⟨last.message, last.ends⟩ now
      rwa [if_pos early] at shows
    · have shows := shows_closure ⟨last.message, last.ends⟩ now
      rwa [if_neg (Nat.not_lt.mpr late)] at shows

end History

/-- What one clone is closed with for long is gone for all once another one is closed for less. -/
theorem shows_last_shorter :
    let gates := Shared.empty.share clear
    let clones := gates.clone ⟨0, by decide⟩
    let closed := clones.change ⟨1, by decide⟩ (Closing.apply · ⟨5, "fault", 1 <<< 99⟩)
    let again := closed.change ⟨0, by decide⟩ (Closing.apply · ⟨7, "other", 3⟩)
    (again.get ⟨1, by decide⟩).Shows 9 (some ⟨"other", 10⟩) ∧
      (again.get ⟨1, by decide⟩).Shows 10 none := by
  intro gates clones closed again
  have cloned : gates.Uses Closing.apply 0 [] clones := .clone _ .none
  have once := cloned.act ⟨1, by decide⟩ ⟨5, "fault", 1 <<< 99⟩ rfl
  have twice := once.act ⟨0, by decide⟩ ⟨7, "other", 3⟩ rfl
  have opened : gates.get ⟨0, by decide⟩ = clear := rfl
  have same : again.place ⟨1, by decide⟩ = gates.place ⟨0, by decide⟩ := rfl
  obtain ⟨-, late⟩ := shows_last opened twice (by decide) same
  obtain ⟨-, before, after, -⟩ := late [⟨5, "fault", 1 <<< 99⟩] ⟨7, "other", 3⟩ rfl
  exact ⟨before 9 (by decide), after 10 (by decide)⟩

end Gate
end CachePurge
