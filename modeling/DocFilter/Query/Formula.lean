import DocFilter.Query.Operand
import DocFilter.Query.Operator

/-!
# Formulas

A query is a `Formula`: clauses in a row, each with the connective to the clause before it.  A
clause is a predicate or a parenthesised formula, negated or not.  The types admit more than can be
written down, such as a predicate with an operator and nothing to its right.
-/

namespace DocFilter

/-- A comparison, or with a left side alone the question whether an attribute is there. -/
structure Predicate where
  left : Operand
  operator : Option Operator
  right : Option Operand

namespace Predicate

/-- The question whether an attribute is there. -/
def exists? (left : Operand) : Predicate := ⟨left, none, none⟩

/-- A comparison of two operands. -/
def compare (left : Operand) (op : Operator) (right : Operand) : Predicate :=
  ⟨left, some op, some right⟩

/-- Equality up to the spelling of number literals. -/
def equiv (p q : Predicate) : Bool :=
  p.left == q.left && p.operator == q.operator && p.right == q.right

instance : BEq Predicate := ⟨equiv⟩

/-- An operator after the left side, if there is one. -/
def renderOperator : Option Operator → List Char
  | none => []
  | some op => ' ' :: op.token.toList

/-- The right side after an operator, if there is one. -/
def renderRight : Option Operand → List Char
  | none => []
  | some x => ' ' :: x.render

/-- How the predicate is written in a query. -/
def render (p : Predicate) : List Char :=
  p.left.render ++ renderOperator p.operator ++ renderRight p.right

end Predicate

/-- A predicate or a group of clauses, with the connective to the clause before it and whether it
stands under a `!`. -/
inductive Clause where
  | test (link : Option Connective) (negated : Bool) (predicate : Predicate)
  | group (link : Option Connective) (negated : Bool) (body : List Clause)

/-- Clauses in a row. -/
abbrev Formula := List Clause

namespace Clause

/-- The connective to the clause before. -/
def link : Clause → Option Connective
  | test link _ _ => link
  | group link _ _ => link

/-- Whether the clause stands under a `!`. -/
def negated : Clause → Bool
  | test _ negated _ => negated
  | group _ negated _ => negated

/-! ### Equality -/

mutual

/-- Equality of clauses up to the spelling of number literals. -/
def equiv : Clause → Clause → Bool
  | test l n p, test l' n' p' => l == l' && n == n' && p == p'
  | group l n body, group l' n' body' => l == l' && n == n' && equivBody body body'
  | _, _ => false
termination_by structural c => c

/-- Equality of formulas, clause by clause. -/
def equivBody : List Clause → List Clause → Bool
  | [], [] => true
  | c :: cs, d :: ds => equiv c d && equivBody cs ds
  | _, _ => false
termination_by structural cs => cs

end

instance : BEq Clause := ⟨equiv⟩

/-! ### Rendering -/

/-- The connective written before a later clause; one that has none is joined by `and`. -/
def renderLink (link : Option Connective) : List Char :=
  ' ' :: (link.getD .and).word.toList ++ [' ']

/-- The sign of a negation. -/
def renderNegation (negated : Bool) : List Char := if negated then ['!'] else []

mutual

/-- How the clause is written in a query, without its connective. -/
def render : Clause → List Char
  | test _ negated p => renderNegation negated ++ p.render
  | group _ negated body => renderNegation negated ++ '(' :: renderBody body ++ [')']
termination_by structural c => c

/-- The clauses of a formula, the connective of the first left out. -/
def renderBody : List Clause → List Char
  | [] => []
  | c :: cs => render c ++ renderMore cs
termination_by structural cs => cs

/-- Later clauses, the connective before each. -/
def renderMore : List Clause → List Char
  | [] => []
  | c :: cs => renderLink c.link ++ render c ++ renderMore cs
termination_by structural cs => cs

end

end Clause

namespace Formula

/-- Equality up to the spelling of number literals. -/
def equiv (f g : Formula) : Bool := Clause.equivBody f g

/-- How the formula is written. -/
def render (f : Formula) : List Char := Clause.renderBody f

end Formula

end DocFilter
