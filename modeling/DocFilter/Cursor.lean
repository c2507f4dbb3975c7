import DocFilter.Text.Scan

/-!
# A position in a text

A `Cursor` is a text with a current position and a remembered start, both counted in code points.
It knows no grammar: it hands out characters, takes tokens, and goes back to a position noted
earlier.  An operation that finds nothing leaves the position where it was.
-/

namespace DocFilter

/-- A text, the number of characters already read, and the position last remembered as the start
of a construct. -/
structure Cursor where
  text : List Char
  position : Nat
  start : Nat
  deriving DecidableEq, Repr

namespace Cursor

/-- At the front of `text`. -/
def ofList (text : List Char) : Cursor := ⟨text, 0, 0⟩

/-- The text not yet read. -/
def unread (c : Cursor) : List Char := c.text.drop c.position

/-- The text already read. -/
def consumed (c : Cursor) : List Char := c.text.take c.position

/-- The characters from position `lo` up to position `hi`; positions past the end count as the
end, and a range that ends before it starts is empty. -/
def slice (c : Cursor) (lo hi : Nat) : List Char := (c.text.take hi).drop lo

/-- The text from position `lo` on. -/
def fragmentFrom (c : Cursor) (lo : Nat) : List Char := c.slice lo c.text.length

/-- The text with the current position marked in it. -/
def render (c : Cursor) : List Char := c.consumed ++ "<HERE>".toList ++ c.unread

/-! ### Looking -/

/-- The next character. -/
def peek? (c : Cursor) : Option Char := c.unread.head?

/-- Whether all of the text has been read. -/
def atEnd (c : Cursor) : Bool := c.unread.isEmpty

/-- Whether the next character is one of `chars`. -/
def peekIsAny (c : Cursor) (chars : List Char) : Bool := c.peek?.any chars.contains

/-! ### Moving -/

/-- To where `rest` is what is left to read. -/
def moveTo (c : Cursor) (rest : List Char) : Cursor :=
  { c with position := c.text.length - rest.length }

/-- Past the next character, which is handed out. -/
def read (c : Cursor) : Option Char × Cursor :=
  match c.peek? with
  | some ch => (some ch, { c with position := c.position + 1 })
  | none => (none, c)

/-- Back over one character. -/
def stepBack (c : Cursor) : Cursor := { c with position := c.position - 1 }

/-- Past any white space. -/
def skipBlanks (c : Cursor) : Cursor := c.moveTo (DocFilter.skipBlanks c.unread)

/-- Past the text that `taken?` takes off the front, if it takes any. -/
def taking (c : Cursor) (taken? : List Char → Option (List Char)) : Bool × Cursor :=
  match taken? c.unread with
  | some rest => (true, c.moveTo rest)
  | none => (false, c)

/-- Past `token`, if it comes next. -/
def readToken (c : Cursor) (token : List Char) : Bool × Cursor := c.taking (afterToken? token)

/-- Past `token`, if it comes next as a word of its own. -/
def readWord (c : Cursor) (token delims : List Char) : Bool × Cursor :=
  c.taking (afterWord? delims token)

/-- Up to the next `stop`, which is not read, or to the end when there is none. -/
def readUntil (c : Cursor) (stop : Char) : Bool × Cursor :=
  let rest := c.unread.dropWhile (· != stop)
  (!rest.isEmpty, c.moveTo rest)

/-! ### Remembering positions -/

/-- Remembers the current position as the start. -/
def markStart (c : Cursor) : Cursor := { c with start := c.position }

/-- Back to the remembered start. -/
def returnToStart (c : Cursor) : Cursor := { c with position := c.start }

/-- To `position`, or to the end if that is nearer. -/
def returnTo (c : Cursor) (position : Nat) : Cursor :=
  { c with position := min position c.text.length }

end Cursor

end DocFilter
