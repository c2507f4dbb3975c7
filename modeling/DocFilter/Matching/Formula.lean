import DocFilter.Matching.Predicate

/-!
# Whether a document satisfies a formula

Clauses are taken from left to right with the verdict so far.  An `and` reached with a false verdict
ends the formula as false; an `or` always looks at its clause.  A predicate whose comparison cannot
be made counts as false before its negation; any other fault ends the whole evaluation.
-/

namespace DocFilter
namespace Matching

/-- A degrading fault makes its predicate false, which is remarked on. -/
def contain (p : Predicate) (x : Evaluation Bool) : Evaluation Bool :=
  match x.result with
  | .ok _ => x
  | .error fault =>
    if fault.isDegrading then ⟨x.notes ++ [.degraded p fault], .ok false⟩ else x

/-- The verdict of a clause, negated if it is to be. -/
def applyNegation (options : MatchOptions) (negated verdict : Bool) : Bool :=
  if negated && options.applyNegation then !verdict else verdict

/-- The verdict so far joined with that of a later clause. -/
def join (link : Option Connective) (current verdict : Bool) : Bool :=
  match link with
  | some .or => current || verdict
  | _ => current && verdict

mutual

/-- The verdict of a clause. -/
def clauseVerdict (options : MatchOptions) (document : Json) : Clause → Evaluation Bool
  | .test _ negated p =>
    applyNegation options negated <$> contain p (verdict options document p)
  | .group _ negated body =>
    applyNegation options negated <$> evaluate options document body
termination_by structural c => c

/-- The verdict of a formula. -/
def evaluate (options : MatchOptions) (document : Json) : List Clause → Evaluation Bool
  | [] => pure false
  | c :: cs => do
    let current ← clauseVerdict options document c
    evaluateMore options document cs current
termination_by structural cs => cs

/-- The verdict of a formula whose remaining clauses are given, with the verdict so far. -/
def evaluateMore (options : MatchOptions) (document : Json) :
    List Clause → (current : Bool) → Evaluation Bool
  | [], current => pure current
  | c :: cs, current =>
    if c.link == some .and && !current then pure false
    else do
      let v ← clauseVerdict options document c
      evaluateMore options document cs (join c.link current v)
termination_by structural cs => cs

end

end Matching
end DocFilter
