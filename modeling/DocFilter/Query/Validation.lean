import DocFilter.Query.Formula

/-!
# Which predicates make sense

Every operator accepts certain kinds of operands only.  `Predicate.validate` says for a predicate
whether its operands fit, and if not why not; the first failing check counts.
-/

namespace DocFilter

/-- Why the operands of a predicate do not fit its operator. -/
inductive Misfit where
  | bareLiteral
  | leftNotPath (op : Operator)
  | nullInComparison (op : Operator)
  | nullInMembership (op : Operator)
  | regexRequired
  | unexpectedRegex (op : Operator)
  | membershipTarget (op : Operator)
  | membershipValue (op : Operator)
  | listRequired (op : Operator)
  | missingOperand (op : Operator)
  deriving DecidableEq, Repr

/-- What is said about a predicate that makes no sense. -/
def Misfit.message : Misfit → String
  | .bareLiteral =>
    "Single value expression should be specified as an attribute path (for example: @.attr)"
  | .leftNotPath op =>
    "Value to the left of '" ++ op.token ++
      "' has to be specified as an attribute path (for example: @.attr)"
  | .nullInComparison op => "Can not use 'null' to the right of '" ++ op.token ++ "'"
  | .nullInMembership op =>
    "Can not use 'null' to the right of '" ++ op.token ++ "' (try '" ++ op.token ++
      " [null]' or '== null')"
  | .regexRequired =>
    "Value to the right of '=~' has to be specified as a regular expression " ++
      "(for example: /foo-.+/)"
  | .unexpectedRegex op =>
    "A regular expression can only be used to the right of '=~', not '" ++ op.token ++ "'"
  | .membershipTarget op =>
    "Value to the right of '" ++ op.token ++
      "' has to be specified as an attribute path (for example: @.attr) or an array " ++
      "(for example: ['val1', 'val2'])"
  | .membershipValue op =>
    "Value to the left of '" ++ op.token ++
      "' has to be specified as an attribute path (for example: @.attr), a string, a number " ++
      "or null"
  | .listRequired op =>
    "Value to the right of '" ++ op.token ++
      "' has to be an array (for example: ['value1', 'value2'])"
  | .missingOperand op => "Value expected to the right of '" ++ op.token ++ "'"

namespace Predicate

/-- The first of the checks that fails, in order. -/
def firstFailing : List (Bool × Misfit) → Except Misfit Unit
  | [] => .ok ()
  | (fits, misfit) :: checks => if fits then firstFailing checks else .error misfit

/-- What the operands of an operator have to be. -/
def checks (left : Operand) (op : Operator) (right : Operand) : List (Bool × Misfit) :=
  match op with
  | .equal | .notEqual => [(left.isPath, .leftNotPath op)]
  | .less | .greater | .lessEqual | .greaterEqual =>
    [(left.isPath, .leftNotPath op), (!right.isNull, .nullInComparison op)]
  | .matchesRegex => [(left.isPath, .leftNotPath op), (right.isRegex, .regexRequired)]
  | .isIn | .notIn =>
    [(!right.isNull, .nullInMembership op),
     (right.isPath || right.isList, .membershipTarget op),
     (left.isPath || left.isScalar, .membershipValue op)]
  | .anyOf | .noneOf =>
    [(!right.isNull, .nullInMembership op), (right.isList, .listRequired op),
     (left.isPath, .leftNotPath op)]

/-- Whether the operands of the predicate fit its operator. -/
def validate (p : Predicate) : Except Misfit Unit :=
  match p.operator, p.right with
  | none, _ => if p.left.isPath then .ok () else .error .bareLiteral
  | some op, none => .error (.missingOperand op)
  | some op, some right =>
    if op ≠ .matchesRegex ∧ right.isRegex then .error (.unexpectedRegex op)
    else firstFailing (checks p.left op right)

end Predicate

end DocFilter
