/-!
# Operators and connectives

The operators that compare the two sides of a predicate, and the connectives that join clauses.
-/

namespace DocFilter

/-- An operator between the two operands of a predicate. -/
inductive Operator where
  | equal | notEqual | less | greater | lessEqual | greaterEqual
  | isIn | notIn | anyOf | noneOf
  | matchesRegex
  deriving DecidableEq, Repr

namespace Operator

/-- How the operator is written. -/
def token : Operator → String
  | equal => "=="
  | notEqual => "!="
  | less => "<"
  | greater => ">"
  | lessEqual => "<="
  | greaterEqual => ">="
  | isIn => "in"
  | notIn => "nin"
  | anyOf => "anyof"
  | noneOf => "noneof"
  | matchesRegex => "=~"

/-- All operators, in the order in which they are looked for. -/
def all : List Operator :=
  [equal, notEqual, less, greater, lessEqual, greaterEqual, matchesRegex, isIn, notIn, anyOf,
    noneOf]

/-- The operator written as `s`. -/
def ofToken? (s : String) : Option Operator := all.find? (·.token == s)

/-- Whether the operator asks for an order. -/
def isOrdering : Operator → Bool
  | less | greater | lessEqual | greaterEqual => true
  | _ => false

/-- Whether the operator is one that can be switched off. -/
def isExtended : Operator → Bool
  | matchesRegex | anyOf | noneOf => true
  | _ => false

end Operator

/-- What joins a clause to the one before it. -/
inductive Connective where
  | and | or
  deriving DecidableEq, Repr

namespace Connective

/-- The word for the connective. -/
def word : Connective → String
  | and => "and"
  | or => "or"

/-- Every way to write a connective, in the order in which they are looked for. -/
def spellings : List (String × Connective) :=
  [("or", or), ("||", or), ("and", and), ("&&", and)]

end Connective

end DocFilter
