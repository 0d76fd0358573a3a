import CachePurge.Observer
import CachePurge.Proofs.Ledger

/-!
What observers are told by programs. Most steps of a program tell nothing. A handler tells that it
is entered, then the failures that it reports, and then that it is left.
-/

namespace CachePurge

/-- A program leaves a view of the state as it was. -/
def Keeps {σ ν α : Type} (view : σ → ν) (body : StateM σ α) : Prop :=
  ∀ st, view (body st).2 = view st

namespace Keeps
variable {σ ν α β : Type} {view : σ → ν}

theorem pure (a : α) : Keeps view (Pure.pure a : StateM σ α) := fun _ => rfl

theorem bind {x : StateM σ α} {f : α → StateM σ β} (first : Keeps view x)
    (second : ∀ a, Keeps view (f a)) : Keeps view (x >>= f) :=
  fun st => (second _ _).trans (first st)

theorem mapM {f : α → StateM σ β} (each : ∀ a, Keeps view (f a)) (xs : List α) :
    Keeps view (xs.mapM f) := by
  induction xs with
  | nil => exact .pure []
  | cons x rest ih =>
      rw [List.mapM_cons]
      exact (each x).bind fun _ => ih.bind fun _ => .pure _

theorem forM {f : α → StateM σ Unit} (each : ∀ a, Keeps view (f a)) (xs : List α) :
    Keeps view (xs.forM f) := by
  induction xs with
  | nil => exact .pure ()
  | cons x rest ih => exact (each x).bind fun _ => ih

end Keeps

/-- What a handler tells that reports some failures. -/
def bracket (handler : Kind) (failures : List (String × Fault)) : List Notice :=
  .enter handler.handlerName :: failures.map (fun x => .failed x.1 x.2) ++
    [.exit handler.handlerName]

namespace Ledger
variable {ε α : Type} {scope? : Kind → Option String}

theorem notices_note (event : Event) (l : Ledger ε) :
    (note event l).2.notices scope? = l.notices scope? ++ (event.notice? scope?).toList := by
  refine List.filterMap_append.trans (congrArg (l.notices scope? ++ ·) ?_)
  rw [List.filterMap_cons]
  cases event.notice? scope? <;> rfl

theorem ask_tells_nothing (question : StateM ε α) :
    Keeps (notices scope?) (ask question) := fun _ => rfl

theorem count_tells_nothing (success : Bool) (n : Nat) :
    Keeps (notices (ε := ε) scope?) (count success n) := fun _ => rfl

theorem countRequest_tells_nothing (success : Bool) (latency : Latency) :
    Keeps (notices (ε := ε) scope?) (countRequest success latency) := fun _ => rfl

theorem send_tells_nothing (s : Surroundings ε) (trusting : Bool) (request : Http.Request) :
    Keeps (notices scope?) (send s trusting request) := by
  have silent (seen : Option Http.Message) :
      Keeps (notices (ε := ε) scope?) (note (.request request seen)) := fun l =>
    (notices_note _ l).trans (List.append_nil _)
  rw [send]
  split
  · exact (silent none).bind fun _ => .pure _
  · exact (ask_tells_nothing _).bind fun _ => (silent _).bind fun _ => .pure _

/-- A handler is left whatever its body comes to. -/
theorem within_notices {handler : Kind} (named : scope? handler = some handler.handlerName)
    {body : StateM (Ledger ε) α} {l : Ledger ε} {failures : List (String × Fault)}
    (told : (body (note (.enter handler) l).2).2.notices scope? =
      (note (.enter handler) l).2.notices scope? ++ failures.map fun x => .failed x.1 x.2) :
    (within handler body l).2.notices scope? = l.notices scope? ++ bracket handler failures := by
  have run : (within handler body l).2 =
      (note (.exit handler) (body (note (.enter handler) l).2).2).2 := rfl
  rw [run, notices_note, told, notices_note]
  simp only [Event.notice?, named, Option.map_some, Option.toList_some, bracket, List.append_assoc,
    List.cons_append, List.nil_append]

end Ledger
end CachePurge
