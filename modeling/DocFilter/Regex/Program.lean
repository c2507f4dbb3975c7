import DocFilter.Regex.Automaton
import DocFilter.Regex.Meaning
import DocFilter.Regex.Reading

/-!
# Programs

A `Program` is a regular expression that was read, has a meaning, and has automata that are not too
large.
-/

namespace DocFilter
namespace Regex

/-- The flags that an expression starts with. -/
structure Flags where
  ignoreCase : Bool := false
  multiLine : Bool := false
  dotAll : Bool := false
  extended : Bool := false
  deriving DecidableEq, Repr

namespace Flags

/-- The mode that the flags start with; Unicode is on. -/
def mode (f : Flags) : Mode := ⟨f.ignoreCase, f.multiLine, f.dotAll, false, false, true⟩

end Flags

/-- An expression ready to be matched. -/
structure Program where
  expression : Expression
  deriving DecidableEq, Repr

/-- The program of an expression as written. -/
def compile? (flags : Flags) (source : List Char) : Option Program :=
  match Syntax.ofText? flags.extended source with
  | none => none
  | some e =>
    match e.meaning? flags.mode with
    | none => none
    | some (expression, _) => if expression.normalForm.fits then some ⟨expression⟩ else none

/-- Whether some part of the text matches. -/
def Program.isMatch (p : Program) (text : List Char) : Bool := p.expression.isMatch text

end Regex
end DocFilter
