import DocFilter.Json.Equality
import DocFilter.Matching.Fault

/-!
# Whether a document satisfies a predicate

The verdict of each operator on the values that its paths lead to.  A missing value and JSON null
are alike for most of them; equality of numbers is equality of their exact values, and order is the
total order of doubles.
-/

namespace DocFilter

/-- The document value that a literal stands for is `v`. -/
def Operand.denotes (literal : Operand) (v : Json) : Bool :=
  match literal, v with
  | .string s, .string t => s == t
  | .number d, .number n => n.toDecimal == d
  | .null, .null => true
  | _, _ => false

namespace Json

/-- Whether a value is missing or null. -/
def isAbsent : Option Json → Bool
  | none => true
  | some v => v.isNull

/-- How a value is shown in the text of a fault. -/
def describe : Option Json → String
  | none => "missing"
  | some v => String.ofList v.compact

end Json

namespace Matching

/-- The path on the left of an operator. -/
def leftPath (op : Operator) : Operand → Except MatchFault Path
  | .path p => .ok p
  | other => .error (.operands op (.leftNotPath other.kind))

/-- A lone path: its value is there and neither null nor false. -/
def isTruthy : Option Json → Bool
  | none | some .null | some (.bool false) => false
  | _ => true

/-- The verdict of a lone operand. -/
def present (document : Json) : Operand → Except MatchFault Bool
  | .path p => .ok (isTruthy (p.resolve document))
  | other => .error (.bareValue other.kind)

/-- Whether two values, of which either may be missing, are equal. -/
def equalValues : Option Json → Option Json → Bool
  | some l, some r => if l.isNull then r.isNull else l.equiv r
  | some l, none => l.isNull
  | none, r => Json.isAbsent r

/-- Whether the path on the left leads to what stands on the right. -/
def equals (document : Json) (op : Operator) (left right : Operand) : Except MatchFault Bool := do
  let l := (← leftPath op left).resolve document
  match right with
  | .path q => .ok (equalValues l (q.resolve document))
  | .null => .ok (Json.isAbsent l)
  | .string _ | .number _ => .ok (l.any right.denotes)
  | other => .error (.operands op (.notComparable other.kind))

/-- The order of two values that are both there. -/
def orderValues (l r : Json) : Except MatchFault Ordering :=
  match l, r with
  | .string s, .string t => .ok (compare s t)
  | .number m, .number n => .ok (compare m.toBinary64 n.toBinary64)
  | _, _ => .error (.incomparable l.typeName r.typeName)

/-- The order of the value on the left and what stands on the right. -/
def order (document : Json) (op : Operator) (left right : Operand) :
    Except MatchFault Ordering := do
  let l := (← leftPath op left).resolve document
  match right with
  | .path q =>
    let r := q.resolve document
    match l.filter (!·.isNull), r.filter (!·.isNull) with
    | some l, some r => orderValues l r
    | _, _ => .error (.comparison (Json.describe l) (Json.describe r))
  | .string t =>
    match l with
    | some (.string s) => .ok (compare s t)
    | _ => .error (.comparison (Json.describe l) (String.ofList right.render))
  | .number d =>
    match l with
    | some (.number n) => .ok (compare n.toBinary64 (Binary64.nearest d))
    | _ => .error (.comparison (Json.describe l) (String.ofList right.render))
  | other => .error (.operands op (.notOrdered other.kind))

/-- Whether a value is an item of another, which has to be an array for that. -/
def memberOf (item : Json → Bool) : Option Json → Bool
  | some (.array items) => items.any item
  | _ => false

/-- Whether the value on the left, if it can be listed at all, is in a list of literals. -/
def listed (op : Operator) (items : List Operand) : Option Json → Evaluation Bool
  | none | some .null => pure (items.contains .null)
  | some (.string s) => pure (items.any (·.denotes (.string s)))
  | some (.number n) => pure (items.any (·.denotes (.number n)))
  | some v => do
    Logged.note (.neverListed v.typeName op)
    pure false

/-- Whether what stands on the left is in the list, or the array, on the right. -/
def containedIn (document : Json) (op : Operator) (left right : Operand) : Evaluation Bool :=
  match left, right with
  | .path p, .path q =>
    let l := p.resolve document
    let r := q.resolve document
    if Json.isAbsent l && Json.isAbsent r then pure true
    else
      match l with
      | some v => pure (memberOf (·.equiv v) r)
      | none => pure false
  | .path p, .list items => listed op items (p.resolve document)
  | literal, other =>
    if literal.isScalar then
      match other with
      | .list items => pure (items.contains literal)
      | .path q => pure (memberOf literal.denotes (q.resolve document))
      | _ => Logged.fail (.operands op (.notTestable literal.kind other.kind))
    else Logged.fail (.operands op (.notTestable literal.kind other.kind))

/-- Whether the text of the value on the left matches the pattern on the right. -/
def matchesPattern (document : Json) (op : Operator) (left right : Operand) :
    Except MatchFault Bool := do
  let l := (← leftPath op left).resolve document
  match right with
  | .regex p => .ok ((l.bind Json.scalarText?).any p.isMatch)
  | other => .error (.operands op (.regexExpected other.kind))

/-- Whether some item of the value on the left is in the list on the right.  A value that is no
array counts as its own only item. -/
def anyListed (document : Json) (op : Operator) (left right : Operand) :
    Except MatchFault Bool := do
  let l := (← leftPath op left).resolve document
  match right with
  | .list items =>
    let isListed := fun v => items.any (·.denotes v)
    .ok (match l with
      | none => false
      | some (.array vs) => vs.any isListed
      | some v => isListed v)
  | other => .error (.operands op (.listExpected other.kind))

/-- An outcome without remarks. -/
def silently {α : Type} (result : Except MatchFault α) : Evaluation α := ⟨[], result⟩

/-- The verdict of an operator on its operands. -/
def compareBy (options : MatchOptions) (document : Json) (op : Operator) (left right : Operand) :
    Evaluation Bool :=
  if op.isExtended && !options.extendedOperators then Logged.fail (.unsupported op)
  else
    match op with
    | .equal => silently (equals document op left right)
    | .notEqual => silently ((equals document op left right).map (!·))
    | .greater => silently ((order document op left right).map (·.isGT))
    | .lessEqual => silently ((order document op left right).map (!·.isGT))
    | .less => silently ((order document op left right).map (·.isLT))
    | .greaterEqual => silently ((order document op left right).map (!·.isLT))
    | .isIn => containedIn document op left right
    | .notIn => (!·) <$> containedIn document op left right
    | .matchesRegex => silently (matchesPattern document op left right)
    | .anyOf => silently (anyListed document op left right)
    | .noneOf => silently ((anyListed document op left right).map (!·))

/-- The verdict of a predicate. -/
def verdict (options : MatchOptions) (document : Json) (p : Predicate) : Evaluation Bool :=
  match p.operator, p.right with
  | none, _ => silently (present document p.left)
  | some op, none => Logged.fail (.operands op .missingRight)
  | some op, some right => compareBy options document op p.left right

end Matching

end DocFilter
