import DocFilter.Regex.Expression

/-!
# Normal forms

An expression written without detours, which says how large its automaton is.  Characters in a row
are one literal, rows stand directly in no row and choices directly in no choice, a choice between
characters or between sets is a set, and what all choices begin with is taken out of the choice.
What matches nothing but the empty text is repeated once at most.
-/

namespace DocFilter
namespace Regex

/-- An expression without detours. -/
inductive NormalForm where
  | empty
  | literal (chars : List Char)
  | set (ranges : Unicode.RangeTable)
  | look (l : Look)
  | repeated (body : NormalForm) (count : Count)
  | capture (body : NormalForm)
  | row (parts : List NormalForm)
  | choice (alternatives : List NormalForm)
  deriving Repr

namespace NormalForm

/-! ### Lengths and equality -/

mutual

/-- The least number of characters in a match, none if a set without characters is in the way. -/
def minLength : NormalForm → Option Nat
  | empty => some 0
  | literal chars => some chars.length
  | set ranges => if ranges.isEmpty then none else some 1
  | look _ => some 0
  | repeated body count => body.minLength.map (· * count.least)
  | capture body => body.minLength
  | row parts => minLengthOfRow parts
  | choice alternatives => minLengthOfChoices alternatives
termination_by structural n => n

/-- The least number of characters in a match of all parts in a row. -/
def minLengthOfRow : List NormalForm → Option Nat
  | [] => some 0
  | part :: parts =>
    match part.minLength, minLengthOfRow parts with
    | some m, some n => some (m + n)
    | _, _ => none
termination_by structural parts => parts

/-- The least number of characters in a match of one of the choices. -/
def minLengthOfChoices : List NormalForm → Option Nat
  | [] => none
  | [n] => n.minLength
  | n :: others =>
    match n.minLength, minLengthOfChoices others with
    | some m, some n => some (min m n)
    | _, _ => none
termination_by structural ns => ns

end

mutual

/-- Whether nothing but the empty text can match. -/
def onlyEmpty : NormalForm → Bool
  | empty => true
  | literal chars => chars.isEmpty
  | set _ => false
  | look _ => true
  | repeated body count => count.most.isSome && body.onlyEmpty
  | capture body => body.onlyEmpty
  | row parts => allOnlyEmpty parts
  | choice alternatives => allOnlyEmpty alternatives
termination_by structural n => n

/-- Whether nothing but the empty text can match any of them. -/
def allOnlyEmpty : List NormalForm → Bool
  | [] => true
  | n :: ns => n.onlyEmpty && allOnlyEmpty ns
termination_by structural ns => ns

end

mutual

/-- Whether two normal forms are the same.  No group is the same as another. -/
def same : NormalForm → NormalForm → Bool
  | empty, empty => true
  | literal cs, literal ds => cs == ds
  | set r, set s => r == s
  | look l, look k => l == k
  | repeated a c, repeated b d => a.same b && c == d
  | row as, row bs => allSame as bs
  | choice as, choice bs => allSame as bs
  | _, _ => false
termination_by structural n => n

/-- Whether two lists hold the same normal forms. -/
def allSame : List NormalForm → List NormalForm → Bool
  | [], [] => true
  | a :: as, b :: bs => a.same b && allSame as bs
  | _, _ => false
termination_by structural ns => ns

end

/-! ### Putting normal forms together -/

/-- A set of characters by its ranges; a single character is a literal. -/
def ofRanges (ranges : Unicode.RangeTable) : NormalForm :=
  match ranges with
  | [(first, last)] => if first = last then literal [Char.ofNat first] else set ranges
  | _ => set ranges

/-- What stands in a row. -/
def parts : NormalForm → List NormalForm
  | empty => []
  | row parts => parts
  | n => [n]

/-- Parts in a row of which no two neighbours are literals. -/
def ofParts : List NormalForm → NormalForm
  | [] => empty
  | [part] => part
  | parts => row parts

/-- Parts in a row and more of them, where literals that meet become one. -/
def joinParts : List NormalForm → List NormalForm → List NormalForm
  | [], more => more
  | [literal cs], literal ds :: more => literal (cs ++ ds) :: more
  | part :: parts, more => part :: joinParts parts more

/-- One after the other. -/
def append (a b : NormalForm) : NormalForm := ofParts (joinParts a.parts b.parts)

/-- The choices that something stands for. -/
def choices : NormalForm → List NormalForm
  | choice alternatives => alternatives
  | n => [n]

/-- The single character that a literal consists of. -/
def character? : NormalForm → Option Char
  | literal [c] => some c
  | _ => none

/-- The ranges of a set. -/
def ranges? : NormalForm → Option Unicode.RangeTable
  | set ranges => some ranges
  | _ => none

/-- The choices as one set, if all are characters or all are sets. -/
def mergeChoices? (alternatives : List NormalForm) : Option NormalForm :=
  match alternatives.mapM character?, alternatives.mapM ranges? with
  | some chars, _ =>
    some (ofRanges (.coalesce ((chars.map Char.toNat).mergeSort.map fun n => (n, n))))
  | _, some tables => some (ofRanges (tables.foldr .join []))
  | _, _ => none

/-- A choice that does not start alike in all choices. -/
def ofDistinct (alternatives : List NormalForm) : NormalForm :=
  match alternatives.flatMap choices with
  | [n] => n
  | ns => (mergeChoices? ns).getD (choice ns)

/-- The number of places from the first on in which two rows are the same. -/
def agreement : List NormalForm → List NormalForm → Nat
  | a :: as, b :: bs => if a.same b then agreement as bs + 1 else 0
  | _, _ => 0

/-- The parts of what is a row of more than one part. -/
def rowParts? : NormalForm → Option (List NormalForm)
  | row parts => some parts
  | _ => none

/-- The choices, with what they all begin with taken out if all are rows. -/
def factor (alternatives : List NormalForm) : NormalForm :=
  match alternatives.mapM rowParts? with
  | some (first :: more) =>
    let common := more.foldl (fun n parts => min n (agreement first parts)) first.length
    if common = 0 then choice alternatives
    else
      append (ofParts (first.take common))
        (ofDistinct ((first :: more).map fun parts => ofParts (parts.drop common)))
  | _ => choice alternatives

/-- A choice between alternatives. -/
def ofChoices (alternatives : List NormalForm) : NormalForm :=
  match alternatives.flatMap choices with
  | [] => set []
  | [n] => n
  | ns => (mergeChoices? ns).getD (factor ns)

/-- Something repeated. -/
def times (body : NormalForm) (count : Count) : NormalForm :=
  let count :=
    if body.onlyEmpty then
      { count with least := min count.least 1, most := some (min (count.most.getD 1) 1) }
    else count
  if count.least = 0 ∧ count.most = some 0 then empty
  else if count.least = 1 ∧ count.most = some 1 then body
  else repeated body count

end NormalForm

/-- The normal forms of the choices that an expression stands for.  The set that no expression
writes, which ends all choices, adds none. -/
def Expression.normalChoices : Expression → List NormalForm
  | empty => [.empty]
  | look l => [.look l]
  | set (.table []) => []
  | set c => [.ofRanges c.ranges]
  | seq a b => [.append (.ofChoices a.normalChoices) (.ofChoices b.normalChoices)]
  | alt a b => .ofChoices a.normalChoices :: b.normalChoices
  | repeated body count => [.times (.ofChoices body.normalChoices) count]
  | capture body => [.capture (.ofChoices body.normalChoices)]

/-- The normal form of an expression. -/
def Expression.normalForm (e : Expression) : NormalForm := .ofChoices e.normalChoices

end Regex
end DocFilter
