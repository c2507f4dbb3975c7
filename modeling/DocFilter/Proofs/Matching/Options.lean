import DocFilter.Proofs.Matching.Predicates

/-!
# What the switches change

An evaluation has two switches.  With negation off, a formula is evaluated as if there were no `!`
in it, at any depth.  With the extended operators off, the outcome is the one that they have when
on, or else the fault of such an operator in the formula: no verdict and no other fault is new.
-/

namespace DocFilter

theorem Operator.isExtended_iff {op : Operator} :
    op.isExtended = true ↔ op ∈ [matchesRegex, anyOf, noneOf] := by
  cases op <;> decide

namespace Clause

mutual

/-- The clause with the sign of negation taken away, at every depth. -/
def withoutNegation : Clause → Clause
  | test link _ p => test link false p
  | group link _ body => group link false (bodyWithoutNegation body)
termination_by structural c => c

/-- The clauses with the sign of negation taken away, at every depth. -/
def bodyWithoutNegation : List Clause → List Clause
  | [] => []
  | c :: cs => withoutNegation c :: bodyWithoutNegation cs
termination_by structural cs => cs

end

mutual

theorem builtAlike_withoutNegation (c : Clause) :
    c.BuiltAlike (fun _ negated => negated = false) Eq c.withoutNegation := by
  cases c with
  | test link negated p => exact ⟨rfl, rfl, rfl⟩
  | group link negated body => exact ⟨rfl, rfl, bodyBuiltAlike_withoutNegation body⟩

theorem bodyBuiltAlike_withoutNegation (cs : List Clause) :
    BodyBuiltAlike (fun _ negated => negated = false) Eq cs (bodyWithoutNegation cs) := by
  cases cs with
  | nil => trivial
  | cons c cs => exact ⟨builtAlike_withoutNegation c, bodyBuiltAlike_withoutNegation cs⟩

end

end Clause

/-- The formula with the sign of negation taken away, at every depth. -/
def Formula.withoutNegation (f : Formula) : Formula := Clause.bodyWithoutNegation f

namespace Matching

variable {options options' : MatchOptions} {document : Json}

/-! ### Negation -/

theorem composable_eq : Composable Eq where
  pure _ := rfl
  bind := by
    rintro x _ next next' rfl hnext
    rw [funext hnext]

/-- A predicate has no negation to apply. -/
theorem verdict_eq_of_extendedOperators_eq
    (h : options.extendedOperators = options'.extendedOperators) (p : Predicate) :
    verdict options document p = verdict options' document p := by
  simp only [verdict, compareBy, h]

theorem applyNegation_off (extended negated : Bool) :
    applyNegation ⟨false, extended⟩ negated = applyNegation ⟨true, extended⟩ false := by
  cases negated <;> rfl

theorem evaluate_without_negation (f : Formula) (extended : Bool) :
    evaluate ⟨false, extended⟩ document f =
      evaluate ⟨true, extended⟩ document f.withoutNegation := by
  have hs : InStep ⟨false, extended⟩ ⟨true, extended⟩ document document Eq
      (fun _ negated => negated = false) Eq :=
    { composable := composable_eq
      negation := by
        rintro negated _ rfl
        exact applyNegation_off extended negated
      predicate := by
        rintro p _ rfl
        exact congrArg (contain p) (verdict_eq_of_extendedOperators_eq rfl p) }
  exact evaluate_inStep hs f _ (Clause.bodyBuiltAlike_withoutNegation f)

/-! ### Extended operators -/

/-- Whether an outcome is the other one, or the fault of an operator that is switched off, one of
those in `ops`. -/
def SameOrRefused (ops : Operator → Prop) (x x' : Evaluation Bool) : Prop :=
  x = x' ∨ ∃ op, ops op ∧ x.result = .error (.unsupported op)

theorem composable_sameOrRefused (ops : Operator → Prop) : Composable (SameOrRefused ops) where
  pure _ := .inl rfl
  bind := by
    rintro x _ next next' (rfl | ⟨op, hop, hx⟩) hnext
    · cases hx : x.result with
      | error fault =>
        -- What comes next is not reached.
        refine .inl (Logged.ext ?_ ?_)
        · simp only [Logged.notes_bind, hx]
        · simp only [Logged.result_bind, hx]
      | ok v =>
        rcases hnext v with hv | ⟨op, hop, hv⟩
        · refine .inl (Logged.ext ?_ ?_)
          · simp only [Logged.notes_bind, hx, hv]
          · simp only [Logged.result_bind, hx, hv]
        · exact .inr ⟨op, hop, by simp only [Logged.result_bind, hx, hv]⟩
    · exact .inr ⟨op, hop, by simp only [Logged.result_bind, hx]⟩

theorem contain_eq_of_unsupported {p : Predicate} {x : Evaluation Bool} {op : Operator}
    (h : x.result = .error (.unsupported op)) : contain p x = x := by
  simp only [contain, h, MatchFault.isDegrading, Bool.false_eq_true, if_false]

theorem verdict_sameOrRefused (negation : Bool) (p : Predicate) :
    SameOrRefused (fun op => op.isExtended = true ∧ p.operator = some op)
      (verdict ⟨negation, false⟩ document p) (verdict ⟨negation, true⟩ document p) := by
  obtain ⟨left, operator, right⟩ := p
  match operator, right with
  | none, _ => exact .inl rfl
  | some op, none => exact .inl rfl
  | some op, some right =>
    cases hextended : op.isExtended with
    | true =>
      refine .inr ⟨op, ⟨hextended, rfl⟩, ?_⟩
      simp only [verdict, compareBy, hextended]
      rfl
    | false =>
      refine .inl ?_
      simp only [verdict, compareBy, hextended, Bool.false_and, Bool.false_eq_true, if_false]

theorem contain_sameOrRefused {ops : Operator → Prop} {p : Predicate} {x x' : Evaluation Bool}
    (h : SameOrRefused ops x x') : SameOrRefused ops (contain p x) (contain p x') := by
  rcases h with rfl | ⟨op, hop, hx⟩
  · exact .inl rfl
  · exact .inr ⟨op, hop, by rw [contain_eq_of_unsupported hx, hx]⟩

theorem evaluate_sameOrRefused (f : Formula) (negation : Bool) :
    SameOrRefused (fun op => op.isExtended = true ∧ ∃ p ∈ f.predicates, p.operator = some op)
      (evaluate ⟨negation, false⟩ document f) (evaluate ⟨negation, true⟩ document f) := by
  have hs : InStep ⟨negation, false⟩ ⟨negation, true⟩ document document
      (SameOrRefused fun op => op.isExtended = true ∧ ∃ p ∈ f.predicates, p.operator = some op)
      Eq (fun p p' => p = p' ∧ p ∈ f.predicates) :=
    { composable := composable_sameOrRefused _
      negation := by
        rintro negated _ rfl
        rfl
      predicate := by
        rintro p _ ⟨rfl, hp⟩
        refine contain_sameOrRefused ?_
        rcases verdict_sameOrRefused negation p with h | ⟨op, ⟨hextended, hop⟩, h⟩
        · exact .inl h
        · exact .inr ⟨op, ⟨hextended, p, hp, hop⟩, h⟩ }
  exact evaluate_inStep hs f f
    (Clause.BodyBuiltAlike.refl (fun _ => rfl) f fun p hp => ⟨rfl, hp⟩)

/-! ### Both switches -/

/-- With negation off a formula is evaluated as if there were no `!` in it.  With the extended
operators off the outcome is that with them on, remarks included, or the fault of an extended
operator that occurs in the formula, so that any other result is also the one with them on. -/
theorem evaluate_switched_off (f : Formula) (document : Json) :
    (∀ extended, evaluate ⟨false, extended⟩ document f =
        evaluate ⟨true, extended⟩ document f.withoutNegation) ∧
      ∀ negation,
        (evaluate ⟨negation, false⟩ document f = evaluate ⟨negation, true⟩ document f ∨
          ∃ op ∈ [Operator.matchesRegex, .anyOf, .noneOf],
            (∃ p ∈ f.predicates, p.operator = some op) ∧
              (evaluate ⟨negation, false⟩ document f).result = .error (.unsupported op)) ∧
        ∀ result, (evaluate ⟨negation, false⟩ document f).result = result →
          (∀ op, result ≠ .error (.unsupported op)) →
            (evaluate ⟨negation, true⟩ document f).result = result := by
  refine ⟨evaluate_without_negation f, fun negation => ⟨?_, ?_⟩⟩
  · rcases evaluate_sameOrRefused f negation with h | ⟨op, ⟨hextended, hop⟩, h⟩
    · exact .inl h
    · exact .inr ⟨op, Operator.isExtended_iff.1 hextended, hop, h⟩
  · rintro _ rfl hsupported
    rcases evaluate_sameOrRefused f negation with h | ⟨op, _, h⟩
    · rw [h]
    · exact absurd h (hsupported op)

end Matching

end DocFilter
