import DocFilter.Regex.Syntax

/-!
# Matching expressions

An `Expression` is what a regular expression stands for once its flags are settled.  It relates
places of a text: from a place it can reach all places where a match that starts there ends.  Sets
of places are bit sets, the bit `i` for the place before character `i`, so that matching is
arithmetic on naturals; a text matches when some place can be reached from some place.
-/

namespace DocFilter
namespace Regex

/-- A condition on a place in the text, with everything settled that flags decide. -/
inductive Look where
  | textStart
  | textEnd
  | lineStart (crlf : Bool)
  | lineEnd (crlf : Bool)
  | word (wordClass : CharClass) (b : Boundary)
  deriving DecidableEq, Repr

/-- What a regular expression stands for. -/
inductive Expression where
  | empty
  | look (l : Look)
  | set (c : CharClass)
  | seq (a b : Expression)
  | alt (a b : Expression)
  | repeated (body : Expression) (count : Count)
  | capture (body : Expression)
  deriving DecidableEq, Repr

namespace Look

/-- Whether the condition holds between two characters, either of which may be missing at an end
of the text. -/
def holds : Look → (before after : Option Char) → Bool
  | textStart, before, _ => before.isNone
  | textEnd, _, after => after.isNone
  | lineStart false, before, _ => before.isNone || before == some '\n'
  | lineEnd false, _, after => after.isNone || after == some '\n'
  | lineStart true, before, after =>
    before.isNone || before == some '\n' || (before == some '\r' && after != some '\n')
  | lineEnd true, before, after =>
    after.isNone || after == some '\r' || (after == some '\n' && before != some '\r')
  | word wordClass b, before, after =>
    let inWord := fun c : Option Char => c.any fun c => wordClass.contains c.toNat
    match b with
    | .edge => inWord before != inWord after
    | .inside => inWord before == inWord after
    | .start => !inWord before && inWord after
    | .finish => inWord before && !inWord after
    | .startHalf => !inWord before
    | .finishHalf => !inWord after

end Look

/-! ### Sets of places -/

/-- The set of the places `i` for which the `i`-th member of the list is true. -/
def placesWhere : List Bool → Nat
  | [] => 0
  | b :: bs => (placesWhere bs) * 2 + b.toNat

/-- The characters before and after each place of a text, given the character before all. -/
def neighbours (before : Option Char) : List Char → List (Option Char × Option Char)
  | [] => [(before, none)]
  | c :: text => (before, some c) :: neighbours (some c) text

/-- An expression in a text: for each condition and each set, the places where it holds or where a
character of it follows. -/
inductive Plan where
  | stay
  | only (places : Nat)
  | step (places : Nat)
  | seq (a b : Plan)
  | alt (a b : Plan)
  | repeated (body : Plan) (min : Nat) (max : Option Nat)
  deriving DecidableEq, Repr

/-- The expression in a text. -/
def Expression.plan (text : List Char) : Expression → Plan
  | empty => .stay
  | look l => .only (placesWhere ((neighbours none text).map fun (b, a) => l.holds b a))
  | set c => .step (placesWhere (text.map fun ch => c.contains ch.toNat))
  | seq a b => .seq (a.plan text) (b.plan text)
  | alt a b => .alt (a.plan text) (b.plan text)
  | repeated body count => .repeated (body.plan text) count.least count.most
  | capture body => body.plan text

/-- The result of applying `step` exactly `n` times, where a result that no longer changes is
kept. -/
def iterate (step : Nat → Nat) : (n : Nat) → (places : Nat) → Nat
  | 0, places => places
  | n + 1, places =>
    let next := step places
    if next == places then places else iterate step n next

/-- The union of the results of applying `step` up to `n` times. -/
def iterateUpTo (step : Nat → Nat) : (n : Nat) → (places : Nat) → Nat
  | 0, places => places
  | n + 1, places =>
    let next := places ||| step places
    if next == places then places else iterateUpTo step n next

/-- The places that the plan can reach from some of the given places, in a text of `length`
characters. -/
def Plan.reach (length : Nat) : Plan → Nat → Nat
  | stay, places => places
  | only allowed, places => places &&& allowed
  | step allowed, places => (places &&& allowed) <<< 1
  | seq a b, places => b.reach length (a.reach length places)
  | alt a b, places => a.reach length places ||| b.reach length places
  | repeated body min max, places =>
    let least := iterate (body.reach length) min places
    match max with
    | some max => iterateUpTo (body.reach length) (max - min) least
    | none => iterateUpTo (body.reach length) (length + 1) least

/-- All places of a text of `length` characters, which are one more than its characters. -/
def allPlaces (length : Nat) : Nat := 1 <<< (length + 1) - 1

/-- Whether some part of the text matches. -/
def Expression.isMatch (e : Expression) (text : List Char) : Bool :=
  (e.plan text).reach text.length (allPlaces text.length) != 0

end Regex
end DocFilter
