import DocFilter.Regex.Program

/-!
# Patterns

A `Pattern` is a regular expression as it is written in a query, a source and flags, together with
what it compiles to.  The flags are single letters, each allowed any number of times.
-/

namespace DocFilter

/-- Why a source and flags make no pattern. -/
inductive PatternFault where
  | unknownFlag (flag : Char)
  | empty
  | invalid
  deriving DecidableEq, Repr

/-- What is said about a source and flags that make no pattern. -/
def PatternFault.message : PatternFault → String
  | .unknownFlag flag =>
    "unsupported regex flag '" ++ String.singleton flag ++ "' (supported: i, m, s, x)"
  | .empty => "regex expression is empty"
  | .invalid => "invalid regex"

namespace Pattern

/-- Switches on what a row of flag letters stands for; the first unknown letter is at fault. -/
def readFlags (flags : Regex.Flags) : List Char → Except PatternFault Regex.Flags
  | [] => .ok flags
  | 'i' :: letters => readFlags { flags with ignoreCase := true } letters
  | 'm' :: letters => readFlags { flags with multiLine := true } letters
  | 's' :: letters => readFlags { flags with dotAll := true } letters
  | 'x' :: letters => readFlags { flags with extended := true } letters
  | letter :: _ => .error (.unknownFlag letter)

/-- What a source and flags compile to.  An empty source is refused first, then an unknown flag,
then an expression that is none. -/
def compile (source flags : String) : Except PatternFault Regex.Program :=
  if source.isEmpty then .error .empty
  else
    match readFlags {} flags.toList with
    | .error fault => .error fault
    | .ok flags =>
      match Regex.compile? flags source.toList with
      | some program => .ok program
      | none => .error .invalid

end Pattern

/-- A regular expression as written, and the program it compiles to. -/
structure Pattern where
  source : String
  flags : String
  program : Regex.Program
  compiled : Pattern.compile source flags = .ok program

namespace Pattern

/-- The pattern of a source and flags. -/
def ofSource (source flags : String) : Except PatternFault Pattern :=
  match h : compile source flags with
  | .ok program => .ok ⟨source, flags, program, h⟩
  | .error fault => .error fault

/-- Whether some part of the text matches. -/
def isMatch (p : Pattern) (text : List Char) : Bool := p.program.isMatch text

/-- Source and flags determine a pattern. -/
theorem ext_source_flags {p q : Pattern} (hs : p.source = q.source) (hf : p.flags = q.flags) :
    p = q := by
  obtain ⟨ps, pf, pp, hp⟩ := p
  obtain ⟨qs, qf, qp, hq⟩ := q
  simp only at hs hf
  subst hs hf
  have : pp = qp := Except.ok.inj (hp.symm.trans hq)
  subst this
  rfl

/-- Patterns are compared by source and flags. -/
instance : DecidableEq Pattern := fun p q =>
  if h : p.source = q.source ∧ p.flags = q.flags then
    isTrue (ext_source_flags h.1 h.2)
  else
    isFalse fun e => h (e ▸ ⟨rfl, rfl⟩)

/-- The pattern between slashes, slashes in the source escaped, and the flags after it. -/
def render (p : Pattern) : List Char :=
  '/' :: p.source.toList.flatMap (fun c => if c = '/' then ['\\', '/'] else [c]) ++
    '/' :: p.flags.toList

end Pattern

end DocFilter
