import DocFilter.Unicode.RangeTable
import DocFilter.Unicode.CaseFolding

/-!
# Classes of characters

A `CharClass` is a set of characters written with tables of code points and the operations on sets,
among them the closure under case variants.
-/

namespace DocFilter

/-- A set of characters. -/
inductive CharClass where
  | table (ranges : Unicode.RangeTable)
  | compl (c : CharClass)
  | union (c d : CharClass)
  | inter (c d : CharClass)
  /-- The characters of which a case variant is in the class; of ASCII letters alone if not
  `unicode`. -/
  | folded (unicode : Bool) (c : CharClass)
  deriving DecidableEq, Repr

namespace CharClass

def empty : CharClass := table []

def all : CharClass := table [(0, 0x10FFFF)]

def ascii : CharClass := table [(0, 0x7F)]

def range (lo hi : Char) : CharClass := table [(lo.toNat, hi.toNat)]

def singleton (c : Char) : CharClass := range c c

def diff (c d : CharClass) : CharClass := inter c (compl d)

def symmDiff (c d : CharClass) : CharClass := union (diff c d) (diff d c)

def unions (cs : List CharClass) : CharClass := cs.foldr union empty

def negateIf (negated : Bool) (c : CharClass) : CharClass := if negated then compl c else c

/-- Whether a code point is in the class. -/
def contains : CharClass → Nat → Bool
  | table ranges, n => ranges.contains n
  | compl c, n => !c.contains n
  | union c d, n => c.contains n || d.contains n
  | inter c d, n => c.contains n && d.contains n
  | folded true c, n => (Unicode.caseVariants n).any c.contains
  | folded false c, n => (Unicode.asciiCaseVariants n).any c.contains

/-- The ranges of the class, in ascending order and apart from each other. -/
def ranges : CharClass → Unicode.RangeTable
  | table ranges => .coalesce ranges
  | compl c => .complement c.ranges
  | union c d => .join c.ranges d.ranges
  | inter c d => .meet c.ranges d.ranges
  | folded true c => .withPartners Unicode.casePairs c.ranges
  | folded false c => .withPartners Unicode.asciiCasePairs c.ranges

end CharClass

end DocFilter
