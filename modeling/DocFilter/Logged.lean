/-!
# Computations that keep notes

Reading a query and matching a document both may stop early, and both leave notes on the way which
survive the stop.  `Logged ω ε α` is the outcome of such a computation: the notes in the order in
which they were made, and either the reason for the stop or a value.
-/

namespace DocFilter

/-- Notes of type `ω`, and a result: a value of type `α` or a reason `ε` for having none. -/
structure Logged (ω ε α : Type) where
  notes : List ω
  result : Except ε α

namespace Logged

variable {ω ε α β : Type}

/-- Stops. -/
protected def fail (reason : ε) : Logged ω ε α := ⟨[], .error reason⟩

/-- Leaves a note. -/
def note (n : ω) : Logged ω ε Unit := ⟨[n], .ok ()⟩

/-- Notes are kept in order, and nothing runs after a stop. -/
instance : Monad (Logged ω ε) where
  pure a := ⟨[], .ok a⟩
  bind x f :=
    match x.result with
    | .error reason => ⟨x.notes, .error reason⟩
    | .ok a => ⟨x.notes ++ (f a).notes, (f a).result⟩

/-- The same outcome, whose value knows that it is the result. -/
def attach : (x : Logged ω ε α) → Logged ω ε { a : α // x.result = .ok a }
  | ⟨notes, .error reason⟩ => ⟨notes, .error reason⟩
  | ⟨notes, .ok a⟩ => ⟨notes, .ok ⟨a, rfl⟩⟩

/-- The same outcome, with the reason for a stop changed by `f`. -/
def mapReason {δ : Type} (f : ε → δ) (x : Logged ω ε α) : Logged ω δ α :=
  ⟨x.notes, x.result.mapError f⟩

/-! ### Results and notes of composed computations -/

@[simp] theorem result_pure (a : α) : (pure a : Logged ω ε α).result = .ok a := rfl
@[simp] theorem notes_pure (a : α) : (pure a : Logged ω ε α).notes = [] := rfl
@[simp] theorem result_fail (e : ε) : (Logged.fail e : Logged ω ε α).result = .error e := rfl
@[simp] theorem notes_fail (e : ε) : (Logged.fail e : Logged ω ε α).notes = [] := rfl
@[simp] theorem result_note (n : ω) : (note n : Logged ω ε Unit).result = .ok () := rfl
@[simp] theorem notes_note (n : ω) : (note n : Logged ω ε Unit).notes = [n] := rfl

theorem result_bind (x : Logged ω ε α) (f : α → Logged ω ε β) :
    (x >>= f).result = match x.result with
      | .error e => .error e
      | .ok a => (f a).result := by
  show (match x.result with
    | .error e => (⟨x.notes, .error e⟩ : Logged ω ε β)
    | .ok a => ⟨x.notes ++ (f a).notes, (f a).result⟩).result = _
  cases x.result <;> rfl

theorem notes_bind (x : Logged ω ε α) (f : α → Logged ω ε β) :
    (x >>= f).notes = match x.result with
      | .error _ => x.notes
      | .ok a => x.notes ++ (f a).notes := by
  show (match x.result with
    | .error e => (⟨x.notes, .error e⟩ : Logged ω ε β)
    | .ok a => ⟨x.notes ++ (f a).notes, (f a).result⟩).notes = _
  cases x.result <;> rfl

@[simp] theorem result_mapReason {δ : Type} (f : ε → δ) (x : Logged ω ε α) :
    (x.mapReason f).result = x.result.mapError f := rfl

theorem result_mapReason_eq_ok_iff {δ : Type} {f : ε → δ} {x : Logged ω ε α} {a : α} :
    (x.mapReason f).result = .ok a ↔ x.result = .ok a := by
  obtain ⟨notes, result⟩ := x
  cases result with
  | error e => constructor <;> intro h <;> cases h
  | ok b => constructor <;> intro h <;> cases h <;> rfl

@[simp] theorem notes_mapReason {δ : Type} (f : ε → δ) (x : Logged ω ε α) :
    (x.mapReason f).notes = x.notes := rfl

/-- Going on from an attached value without using what it knows is going on from the value. -/
theorem attach_bind (x : Logged ω ε α) (f : α → Logged ω ε β) :
    (x.attach >>= fun a => f a.1) = (x >>= f) := by
  obtain ⟨notes, result⟩ := x
  cases result <;> rfl

/-- The result of going on from an attached value, which knows where it comes from. -/
theorem result_attach_bind (x : Logged ω ε α) (f : { a : α // x.result = .ok a } → Logged ω ε β) :
    (x.attach >>= f).result = match h : x.result with
      | .error e => .error e
      | .ok a => (f ⟨a, h⟩).result := by
  obtain ⟨notes, result⟩ := x
  cases result <;> rfl

end Logged

end DocFilter
