import DocFilter.Logged
import DocFilter.Query.Validation

/-!
# Reading rules

A query is read by *rules*.  A rule looks at the text that is left and either takes a value off its
front, or finds nothing and leaves the text alone, or fails, which rejects the whole query.  Places
in the text are given by what is left of it from there on, so that a rule never needs to know how
much was read before it.

On its way a rule may leave notices about spellings that look like a slip but are not yet an error.
-/

namespace DocFilter

/-- What is wrong with a query that cannot be read. -/
inductive SyntaxFault where
  | unmatchedClose
  | trailingText
  | tooDeep (limit : Nat)
  | closeExpected
  | clauseExpected
  | misfit (why : Misfit)
  | valueExpected (op : Operator)
  | deepScan
  | bracketInPath
  | callInPath
  | listElement
  | listSeparator
  | openString
  /-- A literal that has no value as a decimal.  Every literal has one, so no rule fails so. -/
  | badNumber (numeral : String)
  | openRegex
  | badPattern (why : PatternFault)
  deriving DecidableEq, Repr

/-- What is said about a fault. -/
def SyntaxFault.message : SyntaxFault → String
  | .unmatchedClose => "Unmatched ')'"
  | .trailingText => "Unexpected input after the end of the query"
  | .tooDeep limit =>
    "Query nests deeper than " ++ String.ofList (Decimal.digits limit) ++ " groups"
  | .closeExpected => "Failed to parse query - expected ')'"
  | .clauseExpected => "Failed to parse query"
  | .misfit why => why.message
  | .valueExpected op => "Value expected to the right of '" ++ op.token ++ "'"
  | .deepScan => "Attribute pathname matching using '..' not supported"
  | .bracketInPath => "Array indexing and bracket notation are not supported in attribute paths"
  | .callInPath => "Functions are not supported in attribute paths"
  | .listElement => "Unexpected element in array"
  | .listSeparator => "Unexpected character in array - expected ',' or ']'"
  | .openString => "Failed to read string - missing end quote"
  | .badNumber numeral => "Invalid number '" ++ numeral ++ "'"
  | .openRegex => "Expected end of regex expression"
  | .badPattern why => why.message

/-- Why and where reading stopped: the text from the failing construct on, the text not yet read,
and how many groups were open that nobody has closed. -/
structure Failure where
  fault : SyntaxFault
  place : List Char
  stop : List Char
  openGroups : Nat
  deriving DecidableEq, Repr

/-- A spelling worth a remark, with the text left at that moment. -/
inductive Notice where
  | bareAt (rest : List Char)
  | strayInNumber (c : Char) (rest : List Char)
  deriving DecidableEq, Repr

/-- The course of reading a value. -/
abbrev Reading (α : Type) := Logged Notice Failure α

/-- A rule takes a value off the front of a text, or finds none there, or fails. -/
abbrev Rule (α : Type) := List Char → Reading (Option (α × List Char))

namespace Reading

/-- Fails with the fault at `place`, where `stop` is what is left to read. -/
def failAt {α : Type} (fault : SyntaxFault) (place stop : List Char) : Reading α :=
  .fail ⟨fault, place, stop, 0⟩

end Reading

namespace Rule

variable {α β : Type}

/-- The first rule, and where it finds nothing the second. -/
def orElse (first second : Rule α) : Rule α := fun s => do
  match ← first s with
  | some found => pure (some found)
  | none => second s

/-- The same rule, with `f` applied to what it takes. -/
def map (f : α → β) (rule : Rule α) : Rule β := fun s => do
  match ← rule s with
  | some (a, rest) => pure (some (f a, rest))
  | none => pure none

/-- Whether the rule takes at least one character whenever it takes anything. -/
def Advances (rule : Rule α) : Prop :=
  ∀ ⦃s : List Char⦄ ⦃a : α⦄ ⦃rest : List Char⦄,
    (rule s).result = .ok (some (a, rest)) → rest <:+ s ∧ rest.length < s.length

theorem Advances.orElse {first second : Rule α} (hf : first.Advances) (hs : second.Advances) :
    (first.orElse second).Advances := by
  intro s a rest h
  simp only [Rule.orElse, Logged.result_bind] at h
  split at h
  · simp at h
  · next found hfound =>
    cases found with
    | none => exact hs h
    | some found =>
      simp only [Logged.result_pure, Except.ok.injEq, Option.some.injEq] at h
      exact hf (h ▸ hfound)

theorem Advances.map {rule : Rule α} (hr : rule.Advances) (f : α → β) :
    (rule.map f).Advances := by
  intro s b rest h
  simp only [Rule.map, Logged.result_bind] at h
  split at h
  · simp at h
  · next found hfound =>
    cases found with
    | none => simp at h
    | some found =>
      simp only [Logged.result_pure, Except.ok.injEq, Option.some.injEq, Prod.mk.injEq] at h
      obtain ⟨_, rfl⟩ := h
      exact hr hfound

end Rule

end DocFilter
