import DocFilter.Matching.Formula
import DocFilter.Proofs.Logged
import DocFilter.Proofs.Validation

/-!
# Which operands an evaluation blames

Every operator looks at the kinds of its operands when it is evaluated, some of them only after a
path was followed.  Still the document has no part in it: `Predicate.shapeFault?` tells from the
predicate alone whether an operand is blamed, and how.  Validation refuses no predicate that is not
blamed, so that a refused predicate has no verdict on any document.
-/

namespace DocFilter

/-- Whether the fault blames an operand: that it is of the wrong kind, or not there. -/
def MatchFault.blamesOperands : MatchFault → Bool
  | bareValue _ | operands _ _ => true
  | _ => false

namespace Predicate

/-- What is blamed first where the left operand has to be a path: that it is none, and then what is
wrong on the right. -/
def leftPathThen (left : Operand) (right? : Option OperandFault) : Option OperandFault :=
  if left.isPath then right? else some (.leftNotPath left.kind)

/-- What the operator blames its operands for. -/
def operandFault? (left : Operand) (op : Operator) (right : Operand) : Option OperandFault :=
  match op with
  | .equal | .notEqual =>
    leftPathThen left
      (if right.isList || right.isRegex then some (.notComparable right.kind) else none)
  | .less | .greater | .lessEqual | .greaterEqual =>
    leftPathThen left
      (if right.isList || right.isRegex || right.isNull then some (.notOrdered right.kind)
        else none)
  | .isIn | .notIn =>
    if (left.isPath || left.isScalar) && (right.isPath || right.isList) then none
    else some (.notTestable left.kind right.kind)
  | .matchesRegex =>
    leftPathThen left (if right.isRegex then none else some (.regexExpected right.kind))
  | .anyOf | .noneOf =>
    leftPathThen left (if right.isList then none else some (.listExpected right.kind))

/-- The fault of the predicate that blames an operand, if it has one. -/
def shapeFault? (p : Predicate) : Option MatchFault :=
  match p.operator, p.right with
  | none, _ => if p.left.isPath then none else some (.bareValue p.left.kind)
  | some op, none => some (.operands op .missingRight)
  | some op, some right => (operandFault? p.left op right).map (.operands op)

theorem blamesOperands_of_shapeFault? {p : Predicate} {fault : MatchFault}
    (h : p.shapeFault? = some fault) : fault.blamesOperands = true := by
  unfold shapeFault? at h
  split at h
  · split at h
    · cases h
    · cases h
      rfl
  · cases h
    rfl
  · obtain ⟨why, _, rfl⟩ := Option.map_eq_some_iff.1 h
    rfl

/-! ### What is refused is blamed -/

theorem leftPathThen_eq_none_iff {left : Operand} {right? : Option OperandFault} :
    leftPathThen left right? = none ↔ left.isPath = true ∧ right? = none := by
  unfold leftPathThen
  split
  · next hleft => simp [hleft]
  · next hleft => simp [hleft]

theorem operandsFit_of_operandFault? {left right : Operand} {op : Operator}
    (h : operandFault? left op right = none) : operandsFit left op right = true := by
  cases op with
  | isIn | notIn =>
    simp only [operandFault?] at h
    split at h
    · assumption
    · cases h
  | _ =>
    obtain ⟨hleft, hright⟩ := leftPathThen_eq_none_iff.1 h
    simp only [ite_eq_right_iff, ite_eq_left_iff, reduceCtorEq, imp_false, Bool.not_eq_true,
      Bool.or_eq_false_iff, Bool.not_eq_false] at hright
    simp [operandsFit, hleft, hright]

/-- A predicate that is refused is blamed. -/
theorem exists_shapeFault?_of_validate {p : Predicate} {why : Misfit}
    (h : p.validate = .error why) : ∃ fault, p.shapeFault? = some fault := by
  obtain ⟨left, operator, right⟩ := p
  match operator, right with
  | none, _ =>
    cases left with
    | path q => cases h
    | _ => exact ⟨_, rfl⟩
  | some op, none => exact ⟨_, rfl⟩
  | some op, some right =>
    cases hfault : operandFault? left op right with
    | some fault => exact ⟨_, congrArg (Option.map (MatchFault.operands op)) hfault⟩
    | none =>
      have hfits := validate_compare_iff.2 (operandsFit_of_operandFault? hfault)
      rw [show (compare left op right).validate = .error why from h] at hfits
      cases hfits

end Predicate

namespace Matching

variable {options : MatchOptions} {document : Json} {op : Operator} {left right : Operand}

/-! ### Each operator -/

/-- Whether an outcome leaves the shapes of operands alone: there is a value, or two values cannot
be compared, or have no order, or an operator that can be switched off is. -/
def ShapesFit {α : Type} (options : MatchOptions) : Except MatchFault α → Prop
  | .ok _ => True
  | .error (.comparison _ _) => True
  | .error (.incomparable _ _) => True
  | .error (.unsupported op) => op.isExtended = true ∧ options.extendedOperators = false
  | .error (.bareValue _) => False
  | .error (.operands _ _) => False

/-- Whether an outcome is the fault that blames an operand, or blames none if there is no such
fault. -/
def Foretold {α : Type} (options : MatchOptions) (fault? : Option MatchFault)
    (x : Except MatchFault α) : Prop :=
  match fault? with
  | some fault => x = .error fault
  | none => ShapesFit options x

theorem Foretold.map {α β : Type} {fault? : Option MatchFault} {x : Except MatchFault α}
    (h : Foretold options fault? x) (f : α → β) : Foretold options fault? (x.map f) := by
  cases fault? with
  | some fault =>
    obtain rfl : x = .error fault := h
    rfl
  | none =>
    cases x with
    | ok a => trivial
    | error fault => cases fault <;> exact h

theorem present_foretold (left : Operand) :
    Foretold options (Predicate.exists? left).shapeFault? (present document left) := by
  cases left with
  | path p => trivial
  | _ => rfl

theorem equals_foretold : Foretold options
    ((Predicate.operandFault? left .equal right).map (.operands op))
    (equals document op left right) := by
  cases left with
  | path p =>
    cases right with
    | list xs => rfl
    | regex q => rfl
    | _ => trivial
  | _ => rfl

theorem orderValues_shapesFit (l r : Json) : ShapesFit options (orderValues l r) := by
  unfold orderValues
  split <;> trivial

theorem order_foretold : Foretold options
    ((Predicate.operandFault? left .less right).map (.operands op))
    (order document op left right) := by
  cases left with
  | path p =>
    cases right with
    | path q =>
      show ShapesFit options (order document op (.path p) (.path q))
      simp only [order, leftPath, bind, Except.bind]
      split
      · exact orderValues_shapesFit _ _
      · trivial
    | string t =>
      show ShapesFit options (order document op (.path p) (.string t))
      simp only [order, leftPath, bind, Except.bind]
      split <;> trivial
    | number d =>
      show ShapesFit options (order document op (.path p) (.number d))
      simp only [order, leftPath, bind, Except.bind]
      split <;> trivial
    | null => rfl
    | list xs => rfl
    | regex q => rfl
  | _ => rfl

theorem listed_shapesFit (op : Operator) (items : List Operand) (v : Option Json) :
    ShapesFit options (listed op items v).result := by
  unfold listed
  split <;> trivial

theorem containedIn_foretold : Foretold options
    ((Predicate.operandFault? left .isIn right).map (.operands op))
    (containedIn document op left right).result := by
  cases left with
  | path p =>
    cases right with
    | path q =>
      show ShapesFit options (containedIn document op (.path p) (.path q)).result
      simp only [containedIn]
      split
      · trivial
      · split <;> trivial
    | list items => exact listed_shapesFit op items (p.resolve document)
    | _ => rfl
  | list xs => cases right <;> rfl
  | regex q => cases right <;> rfl
  | _ =>
    cases right with
    | path q => trivial
    | list items => trivial
    | _ => rfl

theorem matchesPattern_foretold : Foretold options
    ((Predicate.operandFault? left .matchesRegex right).map (.operands op))
    (matchesPattern document op left right) := by
  cases left with
  | path p =>
    cases right with
    | regex q => trivial
    | _ => rfl
  | _ => rfl

theorem anyListed_foretold : Foretold options
    ((Predicate.operandFault? left .anyOf right).map (.operands op))
    (anyListed document op left right) := by
  cases left with
  | path p =>
    cases right with
    | list xs => trivial
    | _ => rfl
  | _ => rfl

/-! ### Predicates -/

/-- An operator that is not switched off ends in the fault that blames an operand, or blames none.
-/
theorem compareBy_foretold (h : (op.isExtended && !options.extendedOperators) = false) :
    Foretold options ((Predicate.operandFault? left op right).map (.operands op))
      (compareBy options document op left right).result := by
  simp only [compareBy, h, Bool.false_eq_true, if_false]
  cases op with
  | equal => exact equals_foretold
  | notEqual => exact equals_foretold.map _
  | less | greater | lessEqual | greaterEqual => exact order_foretold.map _
  | isIn => exact containedIn_foretold
  | notIn =>
    simp only [Logged.result_map]
    exact containedIn_foretold.map _
  | matchesRegex => exact matchesPattern_foretold
  | anyOf => exact anyListed_foretold
  | noneOf => exact anyListed_foretold.map _

theorem verdict_foretold (hextended : options.extendedOperators = true) (document : Json)
    (p : Predicate) :
    Foretold options p.shapeFault? (verdict options document p).result := by
  obtain ⟨left, operator, right⟩ := p
  match operator, right with
  | none, _ => exact present_foretold left
  | some op, none => rfl
  | some op, some right =>
    exact compareBy_foretold (by rw [hextended, Bool.not_true, Bool.and_false])

/-- The faults that blame an operand can be told from the predicate alone. -/
theorem verdict_blames_iff (hextended : options.extendedOperators = true) {p : Predicate}
    {fault : MatchFault} :
    (verdict options document p).result = .error fault ∧ fault.blamesOperands = true ↔
      p.shapeFault? = some fault := by
  have hforetold := verdict_foretold hextended document p
  constructor
  · rintro ⟨hresult, hblames⟩
    rw [hresult] at hforetold
    cases hfault : p.shapeFault? with
    | some fault' =>
      rw [hfault] at hforetold
      cases hforetold
      rfl
    | none =>
      rw [hfault] at hforetold
      cases fault with
      | bareValue kind => cases hforetold
      | operands op why => cases hforetold
      | _ => cases hblames
  · intro hfault
    rw [hfault] at hforetold
    exact ⟨hforetold, Predicate.blamesOperands_of_shapeFault? hfault⟩

/-- With all operators on, whether a predicate fails with a fault that blames an operand, and with
which one, does not depend on the document.  A predicate that validation refuses fails with such a
fault on every document, so it has no verdict and is never just counted as false. -/
theorem verdict_of_misfit (negation : Bool) (p : Predicate) :
    (∀ d d' fault, (verdict ⟨negation, true⟩ d p).result = .error fault →
        fault.blamesOperands = true → (verdict ⟨negation, true⟩ d' p).result = .error fault) ∧
      ∀ why, p.validate = .error why →
        (∃ fault, fault.blamesOperands = true ∧
          ∀ d, (verdict ⟨negation, true⟩ d p).result = .error fault) ∧
        ∀ d, (∀ v, (verdict ⟨negation, true⟩ d p).result ≠ .ok v) ∧
          ∀ fault, (verdict ⟨negation, true⟩ d p).result = .error fault →
            fault.isDegrading = false := by
  refine ⟨?_, ?_⟩
  · intro d d' fault hresult hblames
    have hfault := (verdict_blames_iff rfl).1 ⟨hresult, hblames⟩
    exact ((verdict_blames_iff rfl).2 hfault).1
  · intro why hrefused
    obtain ⟨fault, hfault⟩ := Predicate.exists_shapeFault?_of_validate hrefused
    have hblames := Predicate.blamesOperands_of_shapeFault? hfault
    have hresult : ∀ d, (verdict ⟨negation, true⟩ d p).result = .error fault :=
      fun d => ((verdict_blames_iff rfl).2 hfault).1
    refine ⟨⟨fault, hblames, hresult⟩, fun d => ⟨fun v hv => ?_, fun fault' hfault' => ?_⟩⟩
    · rw [hresult d] at hv
      cases hv
    · rw [hresult d] at hfault'
      cases hfault'
      cases fault with
      | comparison l r => cases hblames
      | _ => rfl

end Matching
end DocFilter
