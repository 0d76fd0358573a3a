/-!
Programs step by step: what those over a state come to and leave, and when those that may fail give
a result, which is if every one of their steps does.
-/

namespace CachePurge

section State
variable {α β σ : Type}

theorem bind_apply (x : StateM σ α) (f : α → StateM σ β) (l : σ) :
    (x >>= f) l = f (x l).1 (x l).2 := rfl

theorem pure_apply (a : α) (l : σ) : (pure a : StateM σ α) l = (a, l) := rfl

theorem mapM_cons_apply (f : α → StateM σ β) (x : α) (xs : List α) (l : σ) :
    (x :: xs).mapM f l =
      ((f x l).1 :: (xs.mapM f (f x l).2).1, (xs.mapM f (f x l).2).2) := by
  rw [List.mapM_cons]
  rfl

end State

section Failure
variable {ε α β : Type} {value : Except ε α} {result : β}

theorem exceptBind_ok {next : α → Except ε β} :
    value >>= next = .ok result ↔ ∃ own, value = .ok own ∧ next own = .ok result := by
  cases value with
  | error e => exact ⟨nofun, fun ⟨_, absent, _⟩ => nomatch absent⟩
  | ok own => exact ⟨fun found => ⟨own, rfl, found⟩, fun ⟨_, rfl, found⟩ => found⟩

theorem exceptMap_ok {f : α → β} :
    f <$> value = .ok result ↔ ∃ own, value = .ok own ∧ f own = result := by
  cases value with
  | error e => exact ⟨nofun, fun ⟨_, absent, _⟩ => nomatch absent⟩
  | ok own =>
      exact ⟨fun found => ⟨own, rfl, Except.ok.inj found⟩, fun ⟨_, rfl, found⟩ =>
        congrArg Except.ok found⟩

end Failure
end CachePurge
