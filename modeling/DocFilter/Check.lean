import DocFilter.Json.Reader
import DocFilter.Query

/-!
# Checking a query

A check reads a query and, unless only its syntax is asked for, matches it against a document given
as text.
-/

namespace DocFilter

/-- What to check. -/
structure Check where
  query : List Char
  /-- The text of the document, if there is one. -/
  input : Option (List Char)
  syntaxOnly : Bool
  compatible : Bool
  deriving DecidableEq, Repr

/-- What a check found. -/
inductive CheckResult where
  /-- The query is well-formed; its canonical text. -/
  | wellFormed (canonical : List Char)
  | matched (verdict : Bool)
  deriving DecidableEq, Repr

/-- Why a check, or a request for documentation, has no result. -/
inductive CheckFault where
  | unreadable (e : SyntaxError)
  | unmatchable (fault : MatchFault)
  | badJson
  | badEncoding
  | noInput
  | unknownTopic (name : String)
  deriving DecidableEq, Repr

/-- What is said about a fault. -/
def CheckFault.message : CheckFault → String
  | .unreadable e => "Parse error: " ++ e.text
  | .unmatchable fault => "Evaluation error: " ++ fault.message
  | .badJson => "Invalid JSON: the text is not a JSON value"
  | .badEncoding => "IO error: stream did not contain valid UTF-8"
  | .noInput => "No input provided. Use --input or pipe JSON to stdin."
  | .unknownTopic name =>
    "Unknown category: '" ++ name ++ "'\nRun 'claimpath docs' to see available categories."

namespace Check

/-- The options that the document is matched by. -/
def options (c : Check) : MatchOptions := if c.compatible then .compatible else .standard

/-- How a verdict is reported. -/
def event (q : Query) (verdict : Bool) : Event :=
  ⟨.info, "Query evaluated",
    [("query", String.ofList q.render), ("matched", toString verdict)]⟩

/-- Carries out a check. -/
def run (c : Check) : Logged Event CheckFault CheckResult := do
  let q ← (Query.compile c.query).mapReason .unreadable
  let q := q.withOptions c.options
  if c.syntaxOnly then pure (.wellFormed q.render)
  else
    match c.input with
    | none => .fail .noInput
    | some text =>
      match Json.ofText? text with
      | none => .fail .badJson
      | some document => do
        let verdict ← (q.run document).mapReason .unmatchable
        Logged.note (event q verdict)
        pure (.matched verdict)

end Check

end DocFilter
