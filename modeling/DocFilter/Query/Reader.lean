import DocFilter.Cursor
import DocFilter.Event
import DocFilter.Query.Reading.Formula

/-!
# A reader at work

A `Reader` is a cursor in the text of a query and the number of groups now open.  It may be asked
for a formula more than once: each time it goes on from where the time before left it, and groups
that a failure left open stay open.  Faults are reported with their position, counted in characters
from the start of the text, and the text from there on.
-/

namespace DocFilter

/-- A fault, where it is, and the text from there on. -/
structure SyntaxError where
  fault : SyntaxFault
  position : Nat
  fragment : List Char
  deriving DecidableEq, Repr

namespace SyntaxError

/-- The place of a failure in the whole text. -/
def ofFailure (text : List Char) (f : Failure) : SyntaxError :=
  ⟨f.fault, text.length - f.place.length, f.place⟩

/-- What is said about the fault. -/
def message (e : SyntaxError) : String := e.fault.message

/-- The message, the position and the fragment in one line. -/
def text (e : SyntaxError) : String :=
  e.message ++ " at position " ++ String.ofList (Decimal.digits e.position) ++ ": '" ++
    String.ofList e.fragment ++ "'"

end SyntaxError

namespace Notice

/-- The text with the place of the notice marked in it. -/
def marked (text rest : List Char) : String :=
  String.ofList ((Cursor.ofList text).moveTo rest).render

/-- How a notice on a text is reported. -/
def event (text : List Char) : Notice → Event
  | .bareAt rest => ⟨.trace, "'@' without attribute segments", [("query", marked text rest)]⟩
  | .strayInNumber c rest =>
    ⟨.trace, "invalid character for number: '" ++ String.singleton c ++ "'",
      [("query", marked text rest)]⟩

end Notice

/-- A cursor in the text of a query, and how many groups are open. -/
structure Reader where
  cursor : Cursor
  depth : Nat
  deriving DecidableEq, Repr

namespace Reader

/-- At the front of a text, with no group open. -/
def ofText (text : List Char) : Reader := ⟨.ofList text, 0⟩

/-- The outcome of reading the rest of the text as a formula, places given by what is left. -/
def outcome (r : Reader) : Reading Formula :=
  Demand.whole (Demand.maxGroups - r.depth) r.cursor.unread

/-- Where a reader stands after the given outcome. -/
def after (r : Reader) (x : Reading Formula) : Reader :=
  match x.result with
  | .ok _ => { r with cursor := r.cursor.moveTo [] }
  | .error f => ⟨r.cursor.moveTo f.stop, r.depth + f.openGroups⟩

/-- Reads the rest of the text as a formula. -/
def read (r : Reader) : Logged Notice SyntaxError Formula × Reader :=
  (r.outcome.mapReason (SyntaxError.ofFailure r.cursor.text), r.after r.outcome)

/-- The outcomes of reading `n` times in a row. -/
def readTimes : (n : Nat) → Reader → List (Logged Notice SyntaxError Formula)
  | 0, _ => []
  | n + 1, r => r.read.1 :: readTimes n r.read.2

end Reader

namespace Formula

/-- Reads a text as a formula. -/
def read (text : List Char) : Logged Notice SyntaxError Formula := (Reader.ofText text).read.1

end Formula

end DocFilter
