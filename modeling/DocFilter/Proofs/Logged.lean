import DocFilter.Logged

/-!
# Laws of computations that keep notes

`Logged` is a lawful monad: notes are concatenated, and a stop absorbs what comes after it.
-/

namespace DocFilter
namespace Logged

variable {ω ε α β : Type}

theorem ext {x y : Logged ω ε α} (hn : x.notes = y.notes) (hr : x.result = y.result) : x = y := by
  cases x
  cases y
  subst hn hr
  rfl

instance : LawfulMonad (Logged ω ε) :=
  LawfulMonad.mk' (Logged ω ε)
    (by
      intro α x
      obtain ⟨notes, result⟩ := x
      cases result with
      | error e => rfl
      | ok a => exact Logged.ext (List.append_nil notes) rfl)
    (fun _ _ => rfl)
    (by
      intro α β γ x f g
      refine Logged.ext ?_ ?_
      · simp only [notes_bind, result_bind]
        cases x.result with
        | error e => rfl
        | ok a => cases h : (f a).result <;> simp [h]
      · simp only [result_bind]
        cases x.result <;> rfl)

theorem result_map (f : α → β) (x : Logged ω ε α) : (f <$> x).result = x.result.map f := by
  rw [map_eq_pure_bind, result_bind]
  cases x.result <;> rfl

theorem notes_map (f : α → β) (x : Logged ω ε α) : (f <$> x).notes = x.notes := by
  rw [map_eq_pure_bind, notes_bind]
  cases x.result with
  | error e => rfl
  | ok a => exact List.append_nil x.notes

/-- A function on values leaves the notes alone, and a stop. -/
theorem map_eq (f : α → β) (x : Logged ω ε α) : f <$> x = ⟨x.notes, x.result.map f⟩ :=
  Logged.ext (notes_map f x) (result_map f x)

end Logged
end DocFilter
