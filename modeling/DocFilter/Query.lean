import DocFilter.Matching.Formula
import DocFilter.Query.Reader

/-!
# Queries

A `Query` is a formula that was read from a text, with the options to match by.
-/

namespace DocFilter

/-- A formula and the options to match documents by. -/
structure Query where
  formula : Formula
  options : MatchOptions

namespace Query

/-- The query that a text denotes, matched by the standard options. -/
def compile (text : List Char) : Logged Event SyntaxError Query :=
  let read := Formula.read text
  ⟨read.notes.map (Notice.event text), read.result.map fun formula => ⟨formula, .standard⟩⟩

/-- The same query, matched by other options. -/
def withOptions (q : Query) (options : MatchOptions) : Query := { q with options }

/-- Equality up to the spelling of number literals; options count. -/
def equiv (p q : Query) : Bool := p.formula.equiv q.formula && p.options == q.options

/-- The canonical text of the query. -/
def render (q : Query) : List Char := q.formula.render

/-- Whether a document satisfies the query. -/
def run (q : Query) (document : Json) : Logged Event MatchFault Bool :=
  let evaluation := Matching.evaluate q.options document q.formula
  ⟨evaluation.notes.map Remark.event, evaluation.result⟩

end Query

end DocFilter
