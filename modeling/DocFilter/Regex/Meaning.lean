import DocFilter.Regex.Expression
import DocFilter.Unicode.Property

/-!
# What a regular expression stands for

The flags in force decide what a part of a regular expression stands for: whether case counts, what
a dot and the line anchors match, which counts are lazy, and whether classes are those of Unicode or
of ASCII.  Where
Unicode is switched off nothing may match part of a character, so negated classes and the dot are
refused there.  Flags switched inside a group hold up to the end of that group.
-/

namespace DocFilter
namespace Regex

/-- The flags that decide what a part stands for. -/
structure Mode where
  ignoreCase : Bool
  multiLine : Bool
  dotAll : Bool
  swapGreed : Bool
  crlf : Bool
  unicode : Bool
  deriving DecidableEq, Repr

namespace Mode

/-- The mode after one flag is switched. -/
def switch (m : Mode) : Flag × Bool → Mode
  | (.ignoreCase, on) => { m with ignoreCase := on }
  | (.multiLine, on) => { m with multiLine := on }
  | (.dotAll, on) => { m with dotAll := on }
  | (.crlf, on) => { m with crlf := on }
  | (.unicode, on) => { m with unicode := on }
  | (.swapGreed, on) => { m with swapGreed := on }
  | (.extended, _) => m

/-- The mode after some flags are switched. -/
def apply (m : Mode) (change : FlagChange) : Mode := change.foldl switch m

/-- The class closed under case variants, where case does not count. -/
def fold (m : Mode) (c : CharClass) : CharClass := if m.ignoreCase then .folded m.unicode c else c

/-- The class, negated if it is to be, which it can be only in Unicode. -/
def negate? (m : Mode) (negated : Bool) (c : CharClass) : Option CharClass :=
  if negated && !m.unicode then none else some (.negateIf negated c)

/-- The count, with laziness the other way round where that is asked for. -/
def count (m : Mode) (c : Count) : Count := { c with lazy := c.lazy != m.swapGreed }

/-! ### Characters and classes -/

/-- The character of a literal; a byte beyond ASCII is none where Unicode is off. -/
def literal? (m : Mode) (l : Literal) : Option Char :=
  if l.isByte && !m.unicode && 0x80 ≤ l.char.toNat then none else some l.char

/-- The character of a literal in a class, which has to be ASCII where Unicode is off. -/
def classLiteral? (m : Mode) (l : Literal) : Option Char :=
  if !m.unicode && 0x80 ≤ l.char.toNat then none else some l.char

/-- The characters of a class of ASCII characters. -/
def asciiClass : AsciiClass → CharClass
  | .alnum => .table [(0x30, 0x39), (0x41, 0x5A), (0x61, 0x7A)]
  | .alpha => .table [(0x41, 0x5A), (0x61, 0x7A)]
  | .ascii => .ascii
  | .blank => .table [(0x09, 0x09), (0x20, 0x20)]
  | .cntrl => .table [(0x00, 0x1F), (0x7F, 0x7F)]
  | .digit => .table [(0x30, 0x39)]
  | .graph => .table [(0x21, 0x7E)]
  | .lower => .table [(0x61, 0x7A)]
  | .print => .table [(0x20, 0x7E)]
  | .punct => .table [(0x21, 0x2F), (0x3A, 0x40), (0x5B, 0x60), (0x7B, 0x7E)]
  | .space => .table [(0x09, 0x0D), (0x20, 0x20)]
  | .upper => .table [(0x41, 0x5A)]
  | .word => .table [(0x30, 0x39), (0x41, 0x5A), (0x5F, 0x5F), (0x61, 0x7A)]
  | .xdigit => .table [(0x30, 0x39), (0x41, 0x46), (0x61, 0x66)]

/-- The characters of a class that has a letter of its own. -/
def shorthandClass (m : Mode) : Shorthand → CharClass
  | .digit => if m.unicode then .table Unicode.decimalNumber else asciiClass .digit
  | .space => if m.unicode then .table Unicode.whiteSpace else asciiClass .space
  | .word => if m.unicode then Unicode.wordCharacter else asciiClass .word

/-- The class of a shorthand; its case variants are in it as it is. -/
def shorthand? (m : Mode) (negated : Bool) (c : Shorthand) : Option CharClass :=
  m.negate? negated (m.shorthandClass c)

/-- The class of a property, if there is one of that name and Unicode is on. -/
def property? (m : Mode) (p : PropertyName) : Option CharClass :=
  if !m.unicode then none
  else
    let name := Unicode.normalizeName p.name
    let found := match p.value with
      | none => Unicode.named? name
      | some value => Unicode.valued? name (Unicode.normalizeName value)
    found.bind fun c => m.negate? p.negated (m.fold c)

/-- The result of an operation on classes. -/
def applyOp (o : SetOp) (c d : CharClass) : CharClass :=
  match o with
  | .intersection => .inter c d
  | .difference => .diff c d
  | .symmetricDifference => .symmDiff c d

mutual

/-- The class of what stands in brackets. -/
def set? (m : Mode) : ClassSet → Option CharClass
  | .literal l => (m.classLiteral? l).map .singleton
  | .range lo hi =>
    match m.classLiteral? lo, m.classLiteral? hi with
    | some lo, some hi => some (.range lo hi)
    | _, _ => none
  | .ascii negated c => m.negate? negated (m.fold (asciiClass c))
  | .shorthand negated c => m.shorthand? negated c
  | .property p => m.property? p
  | .bracketed negated set => (m.set? set).bind fun c => m.negate? negated (m.fold c)
  | .union items => m.union? items
  | .op o lhs rhs =>
    match m.set? lhs, m.set? rhs with
    | some c, some d => some (applyOp o (m.fold c) (m.fold d))
    | _, _ => none
termination_by structural set => set

/-- The union of the classes of items. -/
def union? (m : Mode) : List ClassSet → Option CharClass
  | [] => some .empty
  | item :: items =>
    match m.set? item, m.union? items with
    | some c, some d => some (.union c d)
    | _, _ => none
termination_by structural items => items

end

/-- What a dot matches: anything, or anything that ends no line. -/
def dot? (m : Mode) : Option CharClass :=
  if !m.unicode then none
  else if m.dotAll then some .all
  else if m.crlf then some (.compl (.table [(0x0A, 0x0A), (0x0D, 0x0D)]))
  else some (.compl (.table [(0x0A, 0x0A)]))

/-- The condition of an assertion. -/
def assertion (m : Mode) : Assertion → Look
  | .lineStart => if m.multiLine then .lineStart m.crlf else .textStart
  | .lineEnd => if m.multiLine then .lineEnd m.crlf else .textEnd
  | .textStart => .textStart
  | .textEnd => .textEnd
  | .word b => .word (m.shorthandClass .word) b

end Mode

namespace Syntax

mutual

/-- What an expression stands for in a mode, and the mode after it. -/
def meaning? (m : Mode) : Syntax → Option (Expression × Mode)
  | empty => some (.empty, m)
  | literal l => (m.literal? l).map fun c => (.set (m.fold (.singleton c)), m)
  | dot => m.dot?.map fun c => (.set c, m)
  | assertion a => some (.look (m.assertion a), m)
  | shorthand negated c => (m.shorthand? negated c).map fun c => (.set c, m)
  | property p => (m.property? p).map fun c => (.set c, m)
  | bracketed negated set =>
    ((m.set? set).bind fun c => m.negate? negated (m.fold c)).map fun c => (.set c, m)
  | repetition body count => (body.meaning? m).map fun (e, m) => (.repeated e (m.count count), m)
  | capture body => (body.meaning? m).map fun (e, _) => (.capture e, m)
  | group change body => (body.meaning? (m.apply change)).map fun (e, _) => (e, m)
  | flags change => some (.empty, m.apply change)
  | concat parts => concatMeaning? m parts
  | alternation choices => alternationMeaning? m choices
termination_by structural e => e

/-- Parts in a row. -/
def concatMeaning? (m : Mode) : List Syntax → Option (Expression × Mode)
  | [] => some (.empty, m)
  | part :: parts =>
    match part.meaning? m with
    | none => none
    | some (a, m) => (concatMeaning? m parts).map fun (b, m) => (.seq a b, m)
termination_by structural parts => parts

/-- Choices; with none left there is nothing to match. -/
def alternationMeaning? (m : Mode) : List Syntax → Option (Expression × Mode)
  | [] => some (.set .empty, m)
  | choice :: choices =>
    match choice.meaning? m with
    | none => none
    | some (a, m) => (alternationMeaning? m choices).map fun (b, m) => (.alt a b, m)
termination_by structural choices => choices

end

end Syntax
end Regex
end DocFilter
