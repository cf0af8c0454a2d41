/-!
# Results that may be failures

A result is a value or an error. What is made of a result, and what is done one after the other,
gives a value only if everything it is made of does.

## Main results

* `exceptMap_eq_ok_iff`, `exceptMap_eq_error_iff`: what is made of a result
* `exceptBind_eq_ok_iff`: what is done with a value if there is one
* `mapM_eq_ok`, `foldlM_eq_ok`: lists of which each item gives a value
-/

namespace BracketScript

theorem exceptMap_eq_ok_iff {ε α β : Type} {f : α → β} {x : Except ε α} {b : β} :
    x.map f = .ok b ↔ ∃ a, x = .ok a ∧ f a = b := by
  cases x <;> simp [Except.map]

theorem exceptMap_eq_error_iff {ε α β : Type} {f : α → β} {x : Except ε α} {error : ε} :
    x.map f = .error error ↔ x = .error error := by
  cases x <;> simp [Except.map]

theorem exceptToOption_eq_some_iff {ε α : Type} {x : Except ε α} {a : α} :
    x.toOption = some a ↔ x = .ok a := by
  cases x <;> simp [Except.toOption]

theorem exceptBind_eq_ok_iff {ε α β : Type} {x : Except ε α} {f : α → Except ε β} {b : β} :
    x >>= f = .ok b ↔ ∃ a, x = .ok a ∧ f a = .ok b := by
  cases x <;> simp [bind, Except.bind]

theorem mapM_eq_ok {ε α β γ : Type} {f : β → Except ε γ} {g : α → β} {k : α → γ} {items : List α}
    (h : ∀ item ∈ items, f (g item) = .ok (k item)) :
    (items.map g).mapM f = .ok (items.map k) := by
  induction items with
  | nil => rfl
  | cons item rest ih =>
    obtain ⟨hitem, hrest⟩ := List.forall_mem_cons.mp h
    rw [List.map_cons, List.mapM_cons, hitem, ih hrest]
    rfl

/-- A fold of which no step fails. -/
theorem foldlM_eq_ok {ε α β : Type} {f : β → α → Except ε β} {g : β → α → β} {items : List α}
    (h : ∀ item ∈ items, ∀ b, f b item = .ok (g b item)) (b : β) :
    items.foldlM f b = .ok (items.foldl g b) := by
  induction items generalizing b with
  | nil => rfl
  | cons item rest ih =>
    obtain ⟨hitem, hrest⟩ := List.forall_mem_cons.mp h
    rw [List.foldlM_cons, hitem b]
    exact ih hrest (g b item)

end BracketScript
