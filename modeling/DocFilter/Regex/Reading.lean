import DocFilter.Regex.ClassReading
import DocFilter.Unicode.Property

/-!
# Reading regular expressions

An expression is choices between rows of parts, each part with a count or none.  A part is a
character, an escape, a class or a group; a group may have a name, which no other group has, and may
switch flags, for itself or for the rest of the group around it.
-/

namespace DocFilter
namespace Regex

/-! ### Counts -/

/-- The largest count, which is the largest of 32 bits. -/
def maxCount : Nat := 0xFFFFFFFF

/-- A count: digits, with blanks around them. -/
def count (extended : Bool) (s : List Char) : Taken Nat :=
  let (digits, rest) := takeSpaced Char.isDigit extended false (skipBlanks s)
  let n := digits.foldl (fun n c => 10 * n + (c.toNat - '0'.toNat)) 0
  if digits.isEmpty || maxCount < n then none
  else some (n, skipSpace extended (skipBlanks rest))

/-- Whether a question mark stands at the front of the text, which makes a count lazy, and the text
after it. -/
def takeLazy : List Char → Bool × List Char
  | '?' :: s => (true, s)
  | s => (false, s)

/-- The counts at a closing brace, after which a question mark may follow. -/
def closeCount (extended : Bool) (least : Nat) (most : Option Nat) : List Char → Taken Count
  | '\x7d' :: s =>
    let (lazy, rest) := takeLazy (skipSpace extended s)
    some (⟨least, most, lazy⟩, rest)
  | _ => none

/-- Counts after an opening brace: the least, and after a comma the most or none. -/
def counts (extended : Bool) (s : List Char) : Taken Count :=
  match count extended (skipSpace extended s) with
  | none => none
  | some (least, ',' :: s) =>
    match skipSpace extended s with
    | '\x7d' :: s => closeCount extended least none ('\x7d' :: s)
    | s =>
      match count extended s with
      | some (most, s) => if least ≤ most then closeCount extended least (some most) s else none
      | none => none
  | some (least, s) => closeCount extended least (some least) s

/-- The count that a sign of repetition stands for, given what follows the sign. -/
def signCount (least : Nat) (most : Option Nat) (s : List Char) : Taken Count :=
  let (lazy, rest) := takeLazy s
  some (⟨least, most, lazy⟩, rest)

/-- The count that a repetition at the front of the text asks for. -/
def repetition? (extended : Bool) : List Char → Option (Taken Count)
  | '*' :: s => some (signCount 0 none s)
  | '+' :: s => some (signCount 1 none s)
  | '?' :: s => some (signCount 0 (some 1) s)
  | '\x7b' :: s => some (counts extended s)
  | _ => none

/-- The parts read so far, the last of them first, with the last one repeated.  There has to be one,
and it must not be a switching of flags. -/
def repeatLast? (count : Count) : List Syntax → Option (List Syntax)
  | [] => none
  | .flags _ :: _ => none
  | part :: parts => some (.repetition part count :: parts)

/-! ### Groups -/

/-- Whether `c` may stand in the name of a group. -/
def inGroupName (isFirst : Bool) (c : Char) : Bool :=
  if isFirst then c == '_' || Unicode.alphabetic.contains c.toNat
  else ['_', '.', '[', ']'].contains c || Unicode.alphanumeric.contains c.toNat

/-- Whether a text may be the name of a group. -/
def isGroupName : List Char → Bool
  | [] => false
  | c :: name => inGroupName true c && name.all (inGroupName false)

/-- The name of a group up to the bracket that closes it. -/
def groupName (s : List Char) : Taken (List Char) :=
  let name := s.takeWhile (· != '>')
  match s.dropWhile (· != '>') with
  | '>' :: rest => if isGroupName name then some (name, rest) else none
  | _ => none

/-- The flags up to a colon or a closing parenthesis, which is handed out too.  No flag stands there
twice, and a minus once at most and never last. -/
def flagChange (negated : Bool) (change : FlagChange) : List Char → Taken (FlagChange × Char)
  | [] => none
  | ':' :: s => some ((change, ':'), s)
  | ')' :: s => some ((change, ')'), s)
  | '-' :: s =>
    if negated then none
    else match s with
      | ':' :: _ => none
      | ')' :: _ => none
      | s => flagChange true change s
  | c :: s =>
    match Flag.ofLetter? c with
    | none => none
    | some flag =>
      if change.any (·.1 == flag) then none
      else flagChange negated (change ++ [(flag, !negated)]) s

/-- What follows an opening parenthesis. -/
inductive GroupHead where
  /-- A group, which may have a name. -/
  | capture (name : Option (List Char))
  /-- A group that switches flags for itself. -/
  | plain (change : FlagChange)
  /-- No group, but flags for the rest of the group around. -/
  | flags (change : FlagChange)
  deriving DecidableEq, Repr

/-- Reads what follows an opening parenthesis.  There are no groups that look around. -/
def groupHead (extended : Bool) (s : List Char) : Taken GroupHead :=
  match skipSpace extended s with
  | '?' :: '=' :: _ => none
  | '?' :: '!' :: _ => none
  | '?' :: '<' :: '=' :: _ => none
  | '?' :: '<' :: '!' :: _ => none
  | '?' :: 'P' :: '<' :: s => (groupName s).map fun (name, rest) => (.capture (some name), rest)
  | '?' :: '<' :: s => (groupName s).map fun (name, rest) => (.capture (some name), rest)
  | '?' :: s =>
    match flagChange false [] s with
    | some ((change, ':'), rest) => some (.plain change, rest)
    | some ((change, _), rest) => if change.isEmpty then none else some (.flags change, rest)
    | none => none
  | s => some (.capture none, s)

/-- Whether extended mode is on after a change of flags. -/
def extendedAfter (extended : Bool) (change : FlagChange) : Bool :=
  match change.find? (·.1 == .extended) with
  | some (_, on) => on
  | none => extended

/-! ### Expressions -/

/-- A part that is neither a group nor a class. -/
def primitive (extended : Bool) : List Char → Taken Syntax
  | [] => none
  | '.' :: s => some (.dot, s)
  | '^' :: s => some (.assertion .lineStart, s)
  | '$' :: s => some (.assertion .lineEnd, s)
  | '\\' :: s =>
    (escape extended s).map fun (e, rest) =>
      (match e with
        | .literal l => .literal l
        | .assertion a => .assertion a
        | .shorthand negated c => .shorthand negated c
        | .property p => .property p, rest)
  | c :: s => some (.literal ⟨c, false⟩, s)

/-- Choices and the parts of the last one, both with the last read first. -/
structure Partial where
  choices : List Syntax
  parts : List Syntax

namespace Partial

/-- Nothing read yet. -/
def start : Partial := ⟨[], []⟩

/-- One more part of the last choice. -/
def add (p : Partial) (part : Syntax) : Partial := { p with parts := part :: p.parts }

/-- The next choice starts. -/
def next (p : Partial) : Partial := ⟨.ofParts p.parts.reverse :: p.choices, []⟩

/-- All choices with their parts. -/
def finish (p : Partial) : Syntax := .ofChoices p.next.choices.reverse

end Partial

/-- The rest of an expression up to a closing parenthesis or the end, given what was read of it and
the names of groups so far.  Each step takes at least one character, so as many steps as there are
characters are enough. -/
def expressionRest : (steps : Nat) → (extended : Bool) → (names : List (List Char)) →
    (read : Partial) → List Char → Taken (Syntax × List (List Char))
  | 0, _, _, _, _ => none
  | steps + 1, extended, names, read, s =>
    match skipSpace extended s with
    | [] => some ((read.finish, names), [])
    | ')' :: rest => some ((read.finish, names), ')' :: rest)
    | '|' :: rest => expressionRest steps extended names read.next rest
    | '[' :: rest =>
      match bracketedClass extended rest with
      | some ((negated, set), rest) =>
        expressionRest steps extended names (read.add (.bracketed negated set)) rest
      | none => none
    | '(' :: rest =>
      match groupHead extended rest with
      | none => none
      | some (.flags change, rest) =>
        expressionRest steps (extendedAfter extended change) names (read.add (.flags change)) rest
      | some (.plain change, rest) =>
        match expressionRest steps (extendedAfter extended change) names .start rest with
        | some ((body, names), ')' :: rest) =>
          expressionRest steps extended names (read.add (.group change body)) rest
        | _ => none
      | some (.capture name, rest) =>
        if name.any names.contains then none
        else
          match expressionRest steps extended (name.toList ++ names) .start rest with
          | some ((body, names), ')' :: rest) =>
            expressionRest steps extended names (read.add (.capture body)) rest
          | _ => none
    | s =>
      match repetition? extended s with
      | some none => none
      | some (some (count, rest)) =>
        match repeatLast? count read.parts with
        | some parts => expressionRest steps extended names { read with parts } rest
        | none => none
      | none =>
        match primitive extended s with
        | some (part, rest) => expressionRest steps extended names (read.add part) rest
        | none => none

/-- How deep the parts of an expression may nest. -/
def maxDepth : Nat := 250

/-- The expression that a text spells out. -/
def Syntax.ofText? (extended : Bool) (s : List Char) : Option Syntax :=
  match expressionRest (s.length + 1) extended [] .start s with
  | some ((e, _), []) => if e.depth ≤ maxDepth then some e else none
  | _ => none

end Regex
end DocFilter
