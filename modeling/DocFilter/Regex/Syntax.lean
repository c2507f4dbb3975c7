import DocFilter.Unicode.CharClass

/-!
# Regular expressions as written

The syntax tree of a regular expression.  Nothing here depends on the flags in force: a tree says
what was written, and `DocFilter.Regex.Meaning` says what it stands for.
-/

namespace DocFilter
namespace Regex

/-- What a flag letter switches. -/
inductive Flag where
  | ignoreCase | multiLine | dotAll | swapGreed | unicode | crlf | extended
  deriving DecidableEq, Repr

/-- The flag that a letter stands for. -/
def Flag.ofLetter? : Char → Option Flag
  | 'i' => some .ignoreCase
  | 'm' => some .multiLine
  | 's' => some .dotAll
  | 'U' => some .swapGreed
  | 'u' => some .unicode
  | 'R' => some .crlf
  | 'x' => some .extended
  | _ => none

/-- Flags that are switched, each on or off. -/
abbrev FlagChange := List (Flag × Bool)

/-- A character that stands for itself.  Two hexadecimal digits after `\x` spell a byte, which
matters where Unicode is switched off. -/
structure Literal where
  char : Char
  isByte : Bool
  deriving DecidableEq, Repr

/-- The classes that have a letter of their own. -/
inductive Shorthand where
  | digit | space | word
  deriving DecidableEq, Repr

/-- The classes of ASCII characters that have a name. -/
inductive AsciiClass where
  | alnum | alpha | ascii | blank | cntrl | digit | graph | lower | print | punct | space | upper
  | word | xdigit
  deriving DecidableEq, Repr

/-- A property of characters by its name, with a value or none. -/
structure PropertyName where
  negated : Bool
  name : List Char
  value : Option (List Char)
  deriving DecidableEq, Repr

/-- A place at or inside a word. -/
inductive Boundary where
  | edge | inside | start | finish | startHalf | finishHalf
  deriving DecidableEq, Repr

/-- A condition on a place in the text. -/
inductive Assertion where
  | lineStart | lineEnd | textStart | textEnd
  | word (b : Boundary)
  deriving DecidableEq, Repr

/-- The operations between the parts of a bracketed class. -/
inductive SetOp where
  | intersection | difference | symmetricDifference
  deriving DecidableEq, Repr

/-- What stands in a bracketed class. -/
inductive ClassSet where
  | literal (l : Literal)
  | range (lo hi : Literal)
  | ascii (negated : Bool) (c : AsciiClass)
  | shorthand (negated : Bool) (c : Shorthand)
  | property (p : PropertyName)
  | bracketed (negated : Bool) (set : ClassSet)
  | union (items : List ClassSet)
  | op (o : SetOp) (lhs rhs : ClassSet)
  deriving Repr

/-- How often something is repeated: at least and at most how many times, and whether a match with
fewer is preferred.  There may be no most. -/
structure Count where
  least : Nat
  most : Option Nat
  lazy : Bool
  deriving DecidableEq, Repr

/-- A regular expression as written.  A group that does not capture may switch flags for itself. -/
inductive Syntax where
  | empty
  | literal (l : Literal)
  | dot
  | assertion (a : Assertion)
  | shorthand (negated : Bool) (c : Shorthand)
  | property (p : PropertyName)
  | bracketed (negated : Bool) (set : ClassSet)
  | repetition (body : Syntax) (count : Count)
  | capture (body : Syntax)
  | group (change : FlagChange) (body : Syntax)
  | flags (change : FlagChange)
  | concat (parts : List Syntax)
  | alternation (choices : List Syntax)
  deriving Repr

namespace ClassSet

/-- Items side by side; a single one stands for itself. -/
def ofItems : List ClassSet → ClassSet
  | [item] => item
  | items => union items

mutual

/-- How deep the parts of a bracketed class nest. -/
def depth : ClassSet → Nat
  | bracketed _ set => set.depth + 1
  | union [] => 0
  | union items => depthOfItems items + 1
  | op _ lhs rhs => max lhs.depth rhs.depth + 1
  | _ => 0
termination_by structural set => set

/-- The depth of the deepest item. -/
def depthOfItems : List ClassSet → Nat
  | [] => 0
  | item :: items => max item.depth (depthOfItems items)
termination_by structural items => items

end

end ClassSet

namespace Syntax

/-- Parts in a row; a single one stands for itself. -/
def ofParts : List Syntax → Syntax
  | [] => empty
  | [part] => part
  | parts => concat parts

/-- Choices; a single one stands for itself. -/
def ofChoices : List Syntax → Syntax
  | [] => empty
  | [choice] => choice
  | choices => alternation choices

mutual

/-- How deep the parts of an expression nest. -/
def depth : Syntax → Nat
  | bracketed _ set => set.depth + 1
  | repetition body _ => body.depth + 1
  | capture body => body.depth + 1
  | group _ body => body.depth + 1
  | concat parts => depthOfParts parts + 1
  | alternation choices => depthOfParts choices + 1
  | _ => 0
termination_by structural e => e

/-- The depth of the deepest part. -/
def depthOfParts : List Syntax → Nat
  | [] => 0
  | part :: parts => max part.depth (depthOfParts parts)
termination_by structural parts => parts

end

end Syntax
end Regex
end DocFilter
