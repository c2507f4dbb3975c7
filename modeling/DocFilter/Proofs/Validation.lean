import DocFilter.Query.Validation

/-!
# Which operands fit which operator

Validation runs through its checks one by one.  Here is what they come to: a table with one line for
each family of operators, and for the predicates that are refused the text that is said of each.
-/

namespace DocFilter
namespace Predicate

theorem firstFailing_eq_ok_iff {checks : List (Bool × Misfit)} :
    firstFailing checks = .ok () ↔ ∀ check ∈ checks, check.1 = true := by
  induction checks with
  | nil => simp [firstFailing]
  | cons check checks ih =>
    obtain ⟨fits, misfit⟩ := check
    cases fits with
    | true => simp [firstFailing, ih]
    | false => simp [firstFailing]

/-- Whether the operands are of the kinds that the operator takes. -/
def operandsFit (left : Operand) (op : Operator) (right : Operand) : Bool :=
  match op with
  | .equal | .notEqual => left.isPath && !right.isRegex
  | .less | .greater | .lessEqual | .greaterEqual =>
    left.isPath && !right.isRegex && !right.isNull
  | .matchesRegex => left.isPath && right.isRegex
  | .isIn | .notIn => (left.isPath || left.isScalar) && (right.isPath || right.isList)
  | .anyOf | .noneOf => left.isPath && right.isList

theorem validate_compare_iff {left right : Operand} {op : Operator} :
    (compare left op right).validate = .ok () ↔ operandsFit left op right = true := by
  have hvalidate : (compare left op right).validate = .ok () ↔
      ¬ (op ≠ .matchesRegex ∧ right.isRegex) ∧ ∀ check ∈ checks left op right, check.1 = true := by
    simp only [validate, compare]
    split
    · next h => simp [h]
    · next h => simp only [h, not_false_eq_true, true_and, firstFailing_eq_ok_iff]
  rw [hvalidate]
  cases op <;> cases right <;>
    simp [checks, operandsFit, Operand.isRegex, Operand.isNull, Operand.isPath, Operand.isList]

/-- Only `=~` takes a pattern, and it takes nothing else. -/
theorem isRegex_of_operandsFit {left right : Operand} {op : Operator}
    (h : operandsFit left op right = true) : right.isRegex = true ↔ op = .matchesRegex := by
  cases op <;> cases right <;>
    simp_all [operandsFit, Operand.isRegex, Operand.isPath, Operand.isList]

/-- No operator takes a pattern on its left. -/
theorem left_isRegex_of_operandsFit {left right : Operand} {op : Operator}
    (h : operandsFit left op right = true) : left.isRegex = false := by
  cases left with
  | regex p => cases op <;> cases h
  | _ => rfl

/-- A lone operand has to be a path. -/
theorem validate_lone_iff {left : Operand} :
    (exists? left).validate = .ok () ↔ ∃ p, left = .path p := by
  cases left <;> simp [validate, exists?, Operand.isPath]

/-! ### What is said of a predicate that is refused -/

/-- Whether a predicate is refused with this text.  Where several things are wrong the text is about
one of them: a missing right side or a misplaced pattern comes first, the left side of `in` and
`anyof` comes after the right one, and that of other operators before it. -/
inductive Refused : Predicate → String → Prop
  | lone {left : Operand} {right : Option Operand} (hleft : left.isPath = false) :
    Refused ⟨left, none, right⟩
      "Single value expression should be specified as an attribute path (for example: @.attr)"
  | incomplete (left : Operand) (op : Operator) :
    Refused ⟨left, some op, none⟩ ("Value expected to the right of '" ++ op.token ++ "'")
  | misplacedPattern {left right : Operand} {op : Operator} (hop : op ≠ .matchesRegex)
      (hright : right.isRegex = true) :
    Refused (compare left op right)
      ("A regular expression can only be used to the right of '=~', not '" ++ op.token ++ "'")
  | leftNotPath {left right : Operand} {op : Operator} (hop : op ≠ .isIn ∧ op ≠ .notIn)
      (hleft : left.isPath = false) (hpattern : right.isRegex = true → op = .matchesRegex)
      (hlist : op = .anyOf ∨ op = .noneOf → right.isList = true) :
    Refused (compare left op right)
      ("Value to the left of '" ++ op.token ++
        "' has to be specified as an attribute path (for example: @.attr)")
  | nullOrdered {left : Operand} {op : Operator} (hop : op.isOrdering = true)
      (hleft : left.isPath = true) :
    Refused (compare left op .null) ("Can not use 'null' to the right of '" ++ op.token ++ "'")
  | patternExpected {left right : Operand} (hleft : left.isPath = true)
      (hright : right.isRegex = false) :
    Refused (compare left .matchesRegex right)
      ("Value to the right of '=~' has to be specified as a regular expression " ++
        "(for example: /foo-.+/)")
  | nullSearched {left : Operand} {op : Operator}
      (hop : op = .isIn ∨ op = .notIn ∨ op = .anyOf ∨ op = .noneOf) :
    Refused (compare left op .null)
      ("Can not use 'null' to the right of '" ++ op.token ++ "' (try '" ++ op.token ++
        " [null]' or '== null')")
  | scalarSearched {left right : Operand} {op : Operator} (hop : op = .isIn ∨ op = .notIn)
      (hright : right.isScalar = true) (hnull : right.isNull = false) :
    Refused (compare left op right)
      ("Value to the right of '" ++ op.token ++
        "' has to be specified as an attribute path (for example: @.attr) or an array " ++
        "(for example: ['val1', 'val2'])")
  | neverFound {left right : Operand} {op : Operator} (hop : op = .isIn ∨ op = .notIn)
      (hpath : left.isPath = false) (hscalar : left.isScalar = false)
      (hright : (right.isPath || right.isList) = true) :
    Refused (compare left op right)
      ("Value to the left of '" ++ op.token ++
        "' has to be specified as an attribute path (for example: @.attr), a string, a number " ++
        "or null")
  | listExpected {left right : Operand} {op : Operator} (hop : op = .anyOf ∨ op = .noneOf)
      (hnull : right.isNull = false) (hlist : right.isList = false)
      (hpattern : right.isRegex = false) :
    Refused (compare left op right)
      ("Value to the right of '" ++ op.token ++
        "' has to be an array (for example: ['value1', 'value2'])")

section Refused

variable {left right : Operand} {op : Operator} {why : Misfit}

theorem firstFailing_cons_eq_error_iff {fits : Bool} {misfit : Misfit}
    {checks : List (Bool × Misfit)} :
    firstFailing ((fits, misfit) :: checks) = .error why ↔
      fits = false ∧ misfit = why ∨ fits = true ∧ firstFailing checks = .error why := by
  cases fits <;> simp [firstFailing]

theorem firstFailing_nil_ne_error : firstFailing [] ≠ .error why := by
  simp [firstFailing]

/-- A comparison is refused for a misplaced pattern, or for the first check that fails. -/
theorem validate_compare_eq_error_iff :
    (compare left op right).validate = .error why ↔
      (op ≠ .matchesRegex ∧ right.isRegex = true) ∧ .unexpectedRegex op = why ∨
        ¬(op ≠ .matchesRegex ∧ right.isRegex = true) ∧
          firstFailing (checks left op right) = .error why := by
  simp only [validate, compare]
  split
  · next h => simp [h]
  · next h => simp only [h, false_and, false_or, not_false_eq_true, true_and]

theorem eq_null_of_isNull {x : Operand} (h : (!x.isNull) = false) : x = .null := by
  cases x with
  | null => rfl
  | _ => cases h

/-- What is neither path, list nor pattern is a scalar. -/
theorem isScalar_of_not {x : Operand} (hopen : (x.isPath || x.isList) = false)
    (hpattern : x.isRegex = false) : x.isScalar = true := by
  cases x with
  | path _ => cases hopen
  | list _ => cases hopen
  | regex _ => cases hpattern
  | _ => rfl

/-- A comparison whose first failing check is `why` is refused with what that says. -/
theorem refused_of_firstFailing (hpattern : right.isRegex = true → op = .matchesRegex)
    (h : firstFailing (checks left op right) = .error why) :
    Refused (compare left op right) why.message := by
  have hnoPattern : op ≠ .matchesRegex → right.isRegex = false := fun hop =>
    Bool.eq_false_iff.2 fun hregex => hop (hpattern hregex)
  -- Each operator has its own checks; a later one counts only where those before it hold.
  cases op <;> simp only [checks, firstFailing_cons_eq_error_iff, firstFailing_nil_ne_error,
    and_false, or_false] at h
  case equal | notEqual =>
    obtain ⟨hleft, rfl⟩ := h
    exact .leftNotPath (by decide) hleft hpattern (by simp)
  case less | greater | lessEqual | greaterEqual =>
    obtain ⟨hleft, rfl⟩ | ⟨hleft, hnull, rfl⟩ := h
    · exact .leftNotPath (by decide) hleft hpattern (by simp)
    · rw [eq_null_of_isNull hnull]
      exact .nullOrdered rfl hleft
  case matchesRegex =>
    obtain ⟨hleft, rfl⟩ | ⟨hleft, hright, rfl⟩ := h
    · exact .leftNotPath (by decide) hleft hpattern (by simp)
    · exact .patternExpected hleft hright
  case isIn | notIn =>
    obtain ⟨hnull, rfl⟩ | ⟨hnull, ⟨hopen, rfl⟩ | ⟨hopen, hleft, rfl⟩⟩ := h
    · rw [eq_null_of_isNull hnull]
      exact .nullSearched (by decide)
    · exact .scalarSearched (by decide) (isScalar_of_not hopen (hnoPattern (by decide)))
        (by simpa using hnull)
    · obtain ⟨hpath, hscalar⟩ := Bool.or_eq_false_iff.1 hleft
      exact .neverFound (by decide) hpath hscalar hopen
  case anyOf | noneOf =>
    obtain ⟨hnull, rfl⟩ | ⟨hnull, ⟨hlist, rfl⟩ | ⟨hlist, hleft, rfl⟩⟩ := h
    · rw [eq_null_of_isNull hnull]
      exact .nullSearched (by decide)
    · exact .listExpected (by decide) (by simpa using hnull) hlist (hnoPattern (by decide))
    · exact .leftNotPath (by decide) hleft hpattern fun _ => hlist

theorem refused_of_validate {p : Predicate} (h : p.validate = .error why) :
    p.Refused why.message := by
  obtain ⟨left, operator, right⟩ := p
  match operator, right with
  | none, right =>
    simp only [validate] at h
    split at h
    · cases h
    · next hleft =>
      cases h
      exact .lone (Bool.eq_false_iff.2 hleft)
  | some op, none =>
    cases h
    exact .incomplete left op
  | some op, some right =>
    obtain ⟨⟨hop, hright⟩, rfl⟩ | ⟨hpattern, hchecks⟩ := validate_compare_eq_error_iff.1 h
    · exact .misplacedPattern hop hright
    · refine refused_of_firstFailing (fun hright => ?_) hchecks
      exact Decidable.byContradiction fun hop => hpattern ⟨hop, hright⟩

/-- A comparison without a misplaced pattern is refused for the first check that fails. -/
theorem validate_compare_of_firstFailing (hpattern : right.isRegex = true → op = .matchesRegex)
    (h : firstFailing (checks left op right) = .error why) :
    (compare left op right).validate = .error why :=
  validate_compare_eq_error_iff.2 (.inr ⟨fun hmisplaced => hmisplaced.1 (hpattern hmisplaced.2), h⟩)

theorem exists_validate_of_refused {p : Predicate} {text : String} (h : p.Refused text) :
    ∃ why, p.validate = .error why ∧ why.message = text := by
  cases h with
  | lone hleft => exact ⟨.bareLiteral, by simp [validate, hleft], rfl⟩
  | incomplete left op => exact ⟨.missingOperand op, rfl, rfl⟩
  | @misplacedPattern left right op hop hright =>
    refine ⟨.unexpectedRegex op, ?_, rfl⟩
    exact validate_compare_eq_error_iff.2 (.inl ⟨⟨hop, hright⟩, rfl⟩)
  | @leftNotPath left right op hop hleft hpattern hlist =>
    refine ⟨.leftNotPath op, validate_compare_of_firstFailing hpattern ?_, rfl⟩
    cases op <;> cases right <;> simp_all [checks, firstFailing, Operand.isList, Operand.isNull]
  | @nullOrdered left op hop hleft =>
    refine ⟨.nullInComparison op, validate_compare_of_firstFailing (fun h => by cases h) ?_, rfl⟩
    cases op <;> simp_all [checks, firstFailing, Operand.isNull, Operator.isOrdering]
  | @patternExpected left right hleft hright =>
    refine ⟨.regexRequired, validate_compare_of_firstFailing (fun _ => rfl) ?_, rfl⟩
    simp [checks, firstFailing, hleft, hright]
  | @nullSearched left op hop =>
    refine ⟨.nullInMembership op, validate_compare_of_firstFailing (fun h => by cases h) ?_, rfl⟩
    rcases hop with rfl | rfl | rfl | rfl <;> rfl
  | @scalarSearched left right op hop hright hnull =>
    refine ⟨.membershipTarget op, ?_, rfl⟩
    cases right with
    | string | number => rcases hop with rfl | rfl <;> rfl
    | null => cases hnull
    | _ => cases hright
  | @neverFound left right op hop hpath hscalar hright =>
    have hleft : (left.isPath || left.isScalar) = false := Bool.or_eq_false_iff.2 ⟨hpath, hscalar⟩
    refine ⟨.membershipValue op, ?_, rfl⟩
    cases right with
    | path q | list xs =>
      refine validate_compare_of_firstFailing (fun h => by cases h) ?_
      rcases hop with rfl | rfl <;> simp [checks, firstFailing, hleft, hright, Operand.isNull]
    | _ => cases hright
  | @listExpected left right op hop hnull hlist hpattern =>
    refine ⟨.listRequired op, validate_compare_of_firstFailing (by simp [hpattern]) ?_, rfl⟩
    rcases hop with rfl | rfl <;> simp [checks, firstFailing, hnull, hlist]

/-- A predicate is refused with the text of the first check that fails, and with no other. -/
theorem refused_iff {p : Predicate} {text : String} :
    p.Refused text ↔ ∃ why, p.validate = .error why ∧ why.message = text := by
  refine ⟨exists_validate_of_refused, ?_⟩
  rintro ⟨why, hwhy, rfl⟩
  exact refused_of_validate hwhy

end Refused

end Predicate
end DocFilter
