import DocFilter.Json.Basic
import DocFilter.Query.Pattern

/-!
# Operands

What stands left and right of an operator: a path into the document, a literal, a list or a
pattern.  Equality of operands compares number literals by value.
-/

namespace DocFilter

/-- A way from the root of a document down to one of its values, one key at a time. -/
structure Path where
  segments : List String
  deriving DecidableEq, Repr

namespace Path

/-- The value a path leads to, if every key on the way is there. -/
def resolve (p : Path) (document : Json) : Option Json := p.segments.foldlM Json.get? document

/-- `@` and the segments, a point before each. -/
def render (p : Path) : List Char :=
  '@' :: p.segments.flatMap fun segment => '.' :: segment.toList

end Path

/-- One side of a predicate. -/
inductive Operand where
  | path (p : Path)
  | string (s : String)
  | number (d : Decimal)
  | null
  | list (items : List Operand)
  | regex (p : Pattern)

namespace Operand

/-- What kind of operand it is, in words. -/
def kind : Operand → String
  | path _ => "attribute path"
  | string _ => "string"
  | number _ => "number"
  | null => "null"
  | list _ => "list"
  | regex _ => "regex"

/-- Whether the operand is a string, a number or null. -/
def isScalar : Operand → Bool
  | string _ | number _ | null => true
  | _ => false

/-- Whether the operand is a path. -/
def isPath : Operand → Bool
  | path _ => true
  | _ => false

/-- Whether the operand is a list. -/
def isList : Operand → Bool
  | list _ => true
  | _ => false

/-- Whether the operand is a pattern. -/
def isRegex : Operand → Bool
  | regex _ => true
  | _ => false

/-- Whether the operand is null. -/
def isNull : Operand → Bool
  | null => true
  | _ => false

/-! ### Equality -/

mutual

/-- Equality of operands: numbers by value, patterns by source and flags. -/
def equiv : Operand → Operand → Bool
  | path p, path q => p == q
  | string s, string t => s == t
  | number d, number e => d == e
  | null, null => true
  | list xs, list ys => equivItems xs ys
  | regex p, regex q => p == q
  | _, _ => false
termination_by structural x => x

/-- Equality of lists, item by item. -/
def equivItems : List Operand → List Operand → Bool
  | [], [] => true
  | x :: xs, y :: ys => equiv x y && equivItems xs ys
  | _, _ => false
termination_by structural xs => xs

end

instance : BEq Operand := ⟨equiv⟩

/-! ### Rendering -/

/-- The quote to write around a string: there are no escapes, so it is the one that the string
does not hold. -/
def quoteFor (s : List Char) : Char := if s.contains '\'' then '"' else '\''

mutual

/-- How the operand is written in a query. -/
def render : Operand → List Char
  | path p => p.render
  | string s => quoteFor s.toList :: s.toList ++ [quoteFor s.toList]
  | number d => d.plain
  | null => "null".toList
  | list items => '[' :: renderItems items ++ [']']
  | regex p => p.render
termination_by structural x => x

/-- The items of a list, with a comma and a space between them. -/
def renderItems : List Operand → List Char
  | [] => []
  | [x] => render x
  | x :: xs => render x ++ ',' :: ' ' :: renderItems xs
termination_by structural xs => xs

end

end Operand

end DocFilter
