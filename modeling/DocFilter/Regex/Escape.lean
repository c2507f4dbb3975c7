import DocFilter.Regex.Syntax
import DocFilter.Text.Blank

/-!
# Escapes of a regular expression

What may follow a backslash: characters that have a meaning otherwise, characters by name or number,
classes and assertions.  In extended mode blanks may stand between the parts of an escape, and so
may comments, which start with `#` and end with the line.
-/

namespace DocFilter
namespace Regex

/-- What stands at the front of a text, and the text after it; none if nothing well-formed does. -/
abbrev Taken (α : Type) := Option (α × List Char)

/-! ### Blanks and comments -/

/-- The text after its leading blanks and comments. -/
def skipComments : (inComment : Bool) → List Char → List Char
  | _, [] => []
  | true, c :: s => skipComments (c != '\n') s
  | false, c :: s =>
    if isBlank c then skipComments false s
    else if c = '#' then skipComments true s
    else c :: s

/-- In extended mode, the text after its leading blanks and comments. -/
def skipSpace (extended : Bool) (s : List Char) : List Char :=
  if extended then skipComments false s else s

/-- The leading characters that satisfy `p`, with blanks and comments among them left out in
extended mode, and the text after them. -/
def takeSpaced (p : Char → Bool) (extended : Bool) :
    (inComment : Bool) → List Char → List Char × List Char
  | _, [] => ([], [])
  | true, c :: s => takeSpaced p extended (c != '\n') s
  | false, c :: s =>
    if p c then
      let (cs, rest) := takeSpaced p extended false s
      (c :: cs, rest)
    else if extended && isBlank c then takeSpaced p extended false s
    else if extended && c == '#' then takeSpaced p extended true s
    else ([], c :: s)

/-- The characters up to a closing brace, blanks and comments left out in extended mode. -/
def upToBrace (extended : Bool) : (inComment : Bool) → List Char → Taken (List Char)
  | _, [] => none
  | true, c :: s => upToBrace extended (c != '\n') s
  | false, c :: s =>
    if extended && isBlank c then upToBrace extended false s
    else if extended && c == '#' then upToBrace extended true s
    else if c = '\x7d' then some ([], s)
    else (upToBrace extended false s).map fun (cs, rest) => (c :: cs, rest)

/-! ### Characters by number -/

/-- Whether `c` is a hexadecimal digit. -/
def isHexDigit (c : Char) : Bool :=
  c.isDigit || ('a' ≤ c && c ≤ 'f') || ('A' ≤ c && c ≤ 'F')

/-- The character that a row of hexadecimal digits numbers. -/
def scalar? (digits : List Char) : Option Char :=
  let n := Unicode.RangeTable.ofHex (digits.map Char.toLower)
  if n.isValidChar && !digits.isEmpty then some (Char.ofNat n) else none

/-- A fixed number of hexadecimal digits. -/
def hexDigits (extended : Bool) : (count : Nat) → List Char → Taken (List Char)
  | 0, s => some ([], s)
  | count + 1, c :: s =>
    if isHexDigit c then
      (hexDigits extended count (skipSpace extended s)).map fun (cs, rest) => (c :: cs, rest)
    else none
  | _ + 1, [] => none

/-- A character by its number, after a letter that says how many digits there are unless they stand
in braces. -/
def hexLiteral (extended : Bool) (count : Nat) (s : List Char) : Option (Literal × List Char) :=
  match skipSpace extended s with
  | '\x7b' :: s => do
    let (digits, rest) ← upToBrace extended false s
    if digits.all isHexDigit then
      some (⟨← scalar? digits, false⟩, skipSpace extended rest)
    else none
  | s => do
    let (digits, rest) ← hexDigits extended count s
    some (⟨← scalar? digits, count == 2⟩, rest)

/-! ### Properties -/

/-- The parts of `s` before and after the first place where `sep` stands. -/
def splitAt? (sep : List Char) : List Char → Option (List Char × List Char)
  | [] => none
  | c :: s =>
    if sep.isPrefixOf (c :: s) then some ([], (c :: s).drop sep.length)
    else (splitAt? sep s).map fun (before, after) => (c :: before, after)

/-- A property name as it stands in braces: alone, or with a value after `!=`, `:` or `=`. -/
def propertyName (negated : Bool) (content : List Char) : PropertyName :=
  match splitAt? ['!', '='] content, splitAt? [':'] content, splitAt? ['='] content with
  | some (name, value), _, _ => ⟨!negated, name, some value⟩
  | none, some (name, value), _ => ⟨negated, name, some value⟩
  | none, none, some (name, value) => ⟨negated, name, some value⟩
  | none, none, none => ⟨negated, content, none⟩

/-- A property: one letter, or a name in braces. -/
def property (extended negated : Bool) (s : List Char) : Taken PropertyName :=
  match skipSpace extended s with
  | '\x7b' :: s =>
    (upToBrace extended false s).map fun (content, rest) => (propertyName negated content, rest)
  | c :: s => if c = '\\' then none else some (⟨negated, [c], none⟩, skipSpace extended s)
  | [] => none

/-! ### Word boundaries -/

/-- Whether `c` may stand in the name of a word boundary. -/
def inBoundaryName (c : Char) : Bool := c.isAlpha || c == '-'

/-- The word boundary that goes by a name. -/
def boundaryOfName? (name : List Char) : Option Boundary :=
  match String.ofList name with
  | "start" => some .start
  | "end" => some .finish
  | "start-half" => some .startHalf
  | "end-half" => some .finishHalf
  | _ => none

/-- A word boundary, and its kind in braces if a letter or dash follows the brace; a brace with
anything else is left for a count. -/
def wordBoundary (extended : Bool) (s : List Char) : Option (Boundary × List Char) :=
  match s with
  | '\x7b' :: inner =>
    match skipSpace extended inner with
    | [] => none
    | c :: inner =>
      if inBoundaryName c then do
        let (name, rest) ← upToBrace extended false (c :: inner)
        some (← boundaryOfName? name, rest)
      else some (.edge, s)
  | s => some (.edge, s)

/-! ### Escapes -/

/-- What an escape stands for. -/
inductive Escape where
  | literal (l : Literal)
  | assertion (a : Assertion)
  | shorthand (negated : Bool) (c : Shorthand)
  | property (p : PropertyName)
  deriving DecidableEq, Repr

/-- Whether a backslash takes the meaning from `c`: any ASCII character but letters, digits and the
angle brackets. -/
def isEscapable (c : Char) : Bool := c.toNat < 0x80 && !c.isAlphanum && c != '<' && c != '>'

/-- The control character of a letter. -/
def controlCharacter? : Char → Option Char
  | 'a' => some '\x07'
  | 'f' => some '\x0c'
  | 't' => some '\t'
  | 'n' => some '\n'
  | 'r' => some '\r'
  | 'v' => some '\x0b'
  | _ => none

/-- The class of a letter, negated for a capital. -/
def shorthandOf? : Char → Option (Bool × Shorthand)
  | 'd' => some (false, .digit)
  | 's' => some (false, .space)
  | 'w' => some (false, .word)
  | 'D' => some (true, .digit)
  | 'S' => some (true, .space)
  | 'W' => some (true, .word)
  | _ => none

/-- The assertion of a letter, the word boundary apart. -/
def assertionOf? : Char → Option Assertion
  | 'A' => some .textStart
  | 'z' => some .textEnd
  | 'B' => some (.word .inside)
  | '<' => some (.word .start)
  | '>' => some (.word .finish)
  | _ => none

/-- How many hexadecimal digits follow a letter. -/
def hexCount? : Char → Option Nat
  | 'x' => some 2
  | 'u' => some 4
  | 'U' => some 8
  | _ => none

/-- What follows a backslash. -/
def escape (extended : Bool) : List Char → Taken Escape
  | [] => none
  | 'p' :: s => (property extended false s).map fun (p, rest) => (.property p, rest)
  | 'P' :: s => (property extended true s).map fun (p, rest) => (.property p, rest)
  | 'b' :: s => (wordBoundary extended s).map fun (b, rest) => (.assertion (.word b), rest)
  | c :: s =>
    match hexCount? c, shorthandOf? c, assertionOf? c, controlCharacter? c with
    | some count, _, _, _ => (hexLiteral extended count s).map fun (l, rest) => (.literal l, rest)
    | _, some (negated, k), _, _ => some (.shorthand negated k, s)
    | _, _, some a, _ => some (.assertion a, s)
    | _, _, _, some control => some (.literal ⟨control, false⟩, s)
    | _, _, _, _ => if isEscapable c then some (.literal ⟨c, false⟩, s) else none

end Regex
end DocFilter
