import DocFilter.Event
import DocFilter.Json.Writer
import DocFilter.Logged
import DocFilter.Query.Formula

/-!
# How matching is set up, and how it fails

`MatchOptions` are the switches of an evaluation and `MatchFault` the reasons why it has no verdict.
One of the faults, a comparison with a value that is missing or of the wrong type, is only ever met
inside a predicate, which then counts as false.
-/

namespace DocFilter

/-- The switches of an evaluation. -/
structure MatchOptions where
  /-- A `!` negates its clause. -/
  applyNegation : Bool
  /-- The operators `=~`, `anyof` and `noneof` are evaluated. -/
  extendedOperators : Bool
  deriving DecidableEq, Repr

namespace MatchOptions

/-- Everything is evaluated. -/
def standard : MatchOptions := ⟨true, true⟩

/-- Negation is ignored and the extended operators are refused. -/
def compatible : MatchOptions := ⟨false, false⟩

end MatchOptions

/-- What is wrong with the operands of an operator. -/
inductive OperandFault where
  | missingRight
  | leftNotPath (kind : String)
  | notComparable (kind : String)
  | notOrdered (kind : String)
  | notTestable (left right : String)
  | regexExpected (kind : String)
  | listExpected (kind : String)
  deriving DecidableEq, Repr

/-- What is said about operands that do not fit. -/
def OperandFault.message : OperandFault → String
  | .missingRight => "missing right operand"
  | .leftNotPath kind => "left value has to be an attribute path, got " ++ kind
  | .notComparable kind => "can't compare with " ++ kind
  | .notOrdered kind => "can't order against " ++ kind
  | .notTestable left right => "can't test " ++ left ++ " against " ++ right
  | .regexExpected kind => "expected a regex, got " ++ kind
  | .listExpected kind => "expected a list, got " ++ kind

/-- Why there is no verdict. -/
inductive MatchFault where
  /-- A side of a comparison is missing, null or of the wrong type. -/
  | comparison (left right : String)
  /-- Two values that are both there have no order. -/
  | incomparable (left right : String)
  /-- The operator is switched off. -/
  | unsupported (op : Operator)
  /-- A lone operand is not a path. -/
  | bareValue (kind : String)
  /-- The operands do not fit the operator. -/
  | operands (op : Operator) (fault : OperandFault)
  deriving DecidableEq, Repr

namespace MatchFault

/-- Whether the fault only makes its predicate false. -/
def isDegrading : MatchFault → Bool
  | comparison _ _ => true
  | _ => false

/-- The name of the kind of fault. -/
def kind : MatchFault → String
  | comparison _ _ => "Comparison"
  | incomparable _ _ => "Incomparable"
  | unsupported _ => "UnsupportedOperator"
  | bareValue _ => "BareValue"
  | operands _ _ => "InvalidOperands"

/-- What is said about a fault. -/
def message : MatchFault → String
  | comparison left right => "Unsupported comparison (" ++ left ++ " vs. " ++ right ++ ")"
  | incomparable left right => "Can't compare " ++ left ++ " value to " ++ right ++ " value"
  | unsupported op => "Operator '" ++ op.token ++ "' is not supported"
  | bareValue kind => "Single value expression has to be an attribute path, got " ++ kind
  | operands op fault => "Invalid operands for '" ++ op.token ++ "': " ++ fault.message

end MatchFault

/-- What an evaluation remarks on. -/
inductive Remark where
  /-- The predicate failed in a way that only makes it false. -/
  | degraded (p : Predicate) (fault : MatchFault)
  /-- A value of this type is never in a list. -/
  | neverListed (type : String) (op : Operator)

/-- How a remark is reported. -/
def Remark.event : Remark → Event
  | .degraded p fault =>
    ⟨.debug, "Failed to evaluate predicate",
      [("predicate", String.ofList p.render), ("error", fault.message)]⟩
  | .neverListed type op =>
    ⟨.trace, type ++ " value can't be used to the left of '" ++ op.token ++ "'", []⟩

/-- The course of an evaluation. -/
abbrev Evaluation (α : Type) := Logged Remark MatchFault α

end DocFilter
