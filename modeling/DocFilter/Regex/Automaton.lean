import DocFilter.Regex.NormalForm
import DocFilter.Unicode.Encoding
import Std.Data.HashMap

/-!
# Automata

How large the automata of an expression are.  There are two: one reads a text forwards byte by byte
and notes where groups begin and end, the other reads backwards and notes nothing.  Counts are
written out, so that an expression which is short to write may well have large automata, and an
expression of which one automaton is too large is refused.
-/

namespace DocFilter
namespace Regex

open Unicode (ByteRow)

/-! ### Extents -/

/-- How large an automaton is: its states, and the bytes that lists of ways on take beside them. -/
structure Extent where
  states : Nat
  lists : Nat
  deriving DecidableEq, Repr

namespace Extent

/-- More states, and more bytes for lists. -/
def grow (e : Extent) (states lists : Nat) : Extent := ⟨e.states + states, e.lists + lists⟩

/-- The memory that an automaton takes, in bytes. -/
def bytes (e : Extent) : Nat := 32 * e.states + e.lists

/-- The memory that an automaton may take. -/
def limit : Nat := 10 * 1024 * 1024

/-- Whether an automaton is small enough. -/
def fits (e : Extent) : Bool := e.bytes ≤ limit

/-- An automaton as it is after `step` has extended it a number of times, unless it grows too
large. -/
def repeatedly (step : Extent → Option Extent) : Nat → Extent → Option Extent
  | 0, e => some e
  | n + 1, e =>
    match step e with
    | some e => if e.fits then repeatedly step n e else none
    | none => none

end Extent

/-! ### Sets forwards -/

/-- Ways on from a state: byte ranges, each with the number of the state that it leads to. -/
abbrev Ways := List ((Nat × Nat) × Nat)

/-- Rows in order, those that begin alike taken together. -/
def groupRows : List ByteRow → List ((Nat × Nat) × List ByteRow)
  | [] => []
  | [] :: rows => groupRows rows
  | (range :: row) :: rows =>
    match groupRows rows with
    | (other, group) :: groups =>
      if range = other then (range, row :: group) :: groups
      else (range, [row]) :: (other, group) :: groups
    | [] => [(range, [row])]

/-- States of an automaton by their ways on, so that no two states have the same. -/
structure Interned where
  numbers : Std.HashMap Ways Nat
  lists : Nat

namespace Interned

/-- None but the last state, which has number 0. -/
def start : Interned := ⟨∅, 0⟩

/-- The number of the state with some ways on. -/
def state (known : Interned) (ways : Ways) : Nat × Interned :=
  match known.numbers[ways]? with
  | some number => (number, known)
  | none =>
    let number := known.numbers.size + 1
    (number, ⟨known.numbers.insert ways number, known.lists + 8 * ways.length⟩)

/-- The number of the state that reads some rows, none of which is longer than `depth`. -/
def rows : (depth : Nat) → List ByteRow → Interned → Nat × Interned
  | 0, _, known => (0, known)
  | depth + 1, group, known =>
    if group.all List.isEmpty then (0, known)
    else
      let (ways, known) := (groupRows group).foldl (fun (ways, known) (range, group) =>
        let (number, known) := rows depth group known
        ((range, number) :: ways, known)) ([], known)
      known.state ways

end Interned

/-- The extent of a set where states with the same ways on are one. -/
def forwardSet (ranges : Unicode.RangeTable) : Extent :=
  let (_, known) := Interned.start.rows 4 ranges.encoded
  ⟨known.numbers.size + 1, known.lists⟩

/-! ### Sets backwards -/

/-- The slots in which an automaton that reads backwards keeps what states of a set it has: the
state that comes next, the byte range in between, and the number of the state. -/
abbrev Slots := Array (Option (Nat × Nat × Nat × Nat))

namespace Slots

/-- How many slots there are. -/
def count : Nat := 1000

/-- No slot is taken. -/
def free : Slots := .replicate count none

/-- One step of a hash, which takes in a number. -/
def mix (hash : UInt64) (n : Nat) : UInt64 := (hash ^^^ n.toUInt64) * 0x100000001B3

/-- The slot for a state. -/
def slot (next lo hi : Nat) : Nat :=
  (mix (mix (mix 0xCBF29CE484222325 next) lo) hi).toNat % count

/-- Extends an automaton by the states of a row, given the state that comes next.  A state that is
still in its slot is used again; otherwise the new one takes the slot. -/
def row (slots : Slots) (next : Nat) : ByteRow → Extent → Slots × Extent
  | [], e => (slots, e)
  | (lo, hi) :: rest, e =>
    let i := slot next lo hi
    match slots.getD i none with
    | some (next', lo', hi', number) =>
      if next = next' ∧ lo = lo' ∧ hi = hi' then row slots number rest e
      else row (slots.setIfInBounds i (some (next, lo, hi, e.states))) e.states rest (e.grow 1 0)
    | none =>
      row (slots.setIfInBounds i (some (next, lo, hi, e.states))) e.states rest (e.grow 1 0)

end Slots

/-- Extends an automaton by a set: a choice between rows, which share states as far as they begin
alike. -/
def backwardSet (rows : List ByteRow) (e : Extent) : Extent :=
  let next := e.states + 1
  let (_, e) := rows.foldl (fun (slots, e) row =>
    let (slots, e) := slots.row next row e
    (slots, e.grow 0 4)) (Slots.free, e.grow 2 0)
  e

/-! ### Words -/

/-- The words up to each empty word among them, and those after the last. -/
def splitAtEmpty : List (List Nat) → List (List (List Nat))
  | [] => [[]]
  | [] :: words => [] :: splitAtEmpty words
  | word :: words =>
    match splitAtEmpty words with
    | chunk :: chunks => (word :: chunk) :: chunks
    | [] => [[word]]

/-- Words in order, split where one ends that others go on from.  Of those that end at the front
only the first counts. -/
def chunks (words : List (List Nat)) : List (List (List Nat)) :=
  match words with
  | [] :: words => splitAtEmpty ([] :: words.dropWhile List.isEmpty)
  | words => splitAtEmpty words

/-- For each byte that words begin with, what follows it in the words. -/
def byFirst (words : List (List Nat)) : List (List (List Nat)) :=
  (words.filterMap List.head?).eraseDups.map fun byte =>
    (words.filter (·.head? == some byte)).map List.tail

/-- Extends an automaton by words that share states as far as they begin alike, none of which is
longer than `depth`. -/
def growWords : (depth : Nat) → (words : List (List Nat)) → Extent → Extent
  | 0, _, e => e
  | depth + 1, words, e =>
    if words.all List.isEmpty then e
    else
      let chunks := chunks words
      let full := chunks.filter (!·.isEmpty)
      full.foldl (fun e chunk =>
        let groups := byFirst chunk
        groups.foldl (fun e group => growWords depth group e)
          (e.grow 1 (if groups.length = 1 then 0 else 8 * groups.length)))
        (e.grow 1 (4 * (full.length + chunks.length - 1)))

/-- The bytes that characters are encoded in. -/
def encode (chars : List Char) : List Nat :=
  chars.flatMap fun c => (String.utf8EncodeChar c).map UInt8.toNat

/-- The encodings of choices that are all literals. -/
def words? (choices : List NormalForm) : Option (List (List Nat)) :=
  choices.mapM fun
    | .literal chars => some (encode chars)
    | _ => none

/-- Extends an automaton by a choice between words. -/
def wordChoice (backward : Bool) (words : List (List Nat)) (e : Extent) : Extent :=
  let words := if backward then words.map List.reverse else words
  (growWords (words.foldl (fun n word => max n word.length) 0) words e).grow 1 0

/-! ### Expressions -/

namespace NormalForm

mutual

/-- Whether every match starts where the text starts, as far as the form shows. -/
def startsAtTextStart : NormalForm → Bool
  | look l => l == .textStart
  | repeated body count => 0 < count.least && body.startsAtTextStart
  | capture body => body.startsAtTextStart
  | row parts => rowStartsAtTextStart parts
  | choice alternatives => allStartAtTextStart alternatives
  | _ => false
termination_by structural n => n

/-- The same for parts in a row. -/
def rowStartsAtTextStart : List NormalForm → Bool
  | [] => false
  | part :: parts => part.startsAtTextStart || part.onlyEmpty && rowStartsAtTextStart parts
termination_by structural parts => parts

/-- The same for all of some choices. -/
def allStartAtTextStart : List NormalForm → Bool
  | [] => true
  | n :: ns => n.startsAtTextStart && allStartAtTextStart ns
termination_by structural ns => ns

end

mutual

/-- Whether every match ends where the text ends, as far as the form shows. -/
def endsAtTextEnd : NormalForm → Bool
  | look l => l == .textEnd
  | repeated body count => 0 < count.least && body.endsAtTextEnd
  | capture body => body.endsAtTextEnd
  | row parts => rowEndsAtTextEnd parts
  | choice alternatives => allEndAtTextEnd alternatives
  | _ => false
termination_by structural n => n

/-- The same for parts in a row. -/
def rowEndsAtTextEnd : List NormalForm → Bool
  | [] => false
  | part :: parts => rowEndsAtTextEnd parts || allOnlyEmpty parts && part.endsAtTextEnd
termination_by structural parts => parts

/-- The same for all of some choices. -/
def allEndAtTextEnd : List NormalForm → Bool
  | [] => true
  | n :: ns => n.endsAtTextEnd && allEndAtTextEnd ns
termination_by structural ns => ns

end

mutual

/-- Extends an automaton by a normal form, unless it grows too large on the way. -/
def extend (backward : Bool) : NormalForm → Extent → Option Extent
  | empty, e => some (e.grow 1 0)
  | literal chars, e => some (e.grow (encode chars).length 0)
  | set ranges, e =>
    if ranges.all (·.2 < 0x80) then some (e.grow 2 (8 * ranges.length))
    else if backward then some (backwardSet ranges.encoded e)
    else
      let set := forwardSet ranges
      some (e.grow set.states set.lists)
  | look _, e => some (e.grow 1 0)
  | repeated body ⟨0, some 1, _⟩, e => (body.extend backward (e.grow 1 8)).map (·.grow 1 0)
  | repeated body ⟨0, none, _⟩, e =>
    if body.minLength.any (0 < ·) then body.extend backward (e.grow 1 8)
    else (body.extend backward e).map (·.grow 3 16)
  | repeated body ⟨least, none, _⟩, e =>
    (Extent.repeatedly (body.extend backward) least e).map (·.grow 1 8)
  | repeated body ⟨least, some most, _⟩, e =>
    if least = most then Extent.repeatedly (body.extend backward) least e
    else
      let e :=
        if least = 0 then some (e.grow 1 0)
        else Extent.repeatedly (body.extend backward) least e
      e.bind fun e =>
        Extent.repeatedly (fun e => body.extend backward (e.grow 1 8)) (most - least)
          (e.grow 1 0)
  | capture body, e =>
    if backward then body.extend backward e
    else (body.extend backward (e.grow 1 0)).map (·.grow 1 0)
  | row parts, e => extendByRow backward parts e
  | choice alternatives, e =>
    match words? alternatives with
    | some words => some (wordChoice backward words e)
    | none => extendByChoices backward 0 alternatives e
termination_by structural n => n

/-- Extends an automaton by parts in a row, the last of them first when it reads backwards. -/
def extendByRow (backward : Bool) : List NormalForm → Extent → Option Extent
  | [], e => some e
  | part :: parts, e =>
    if backward then (extendByRow backward parts e).bind (part.extend backward)
    else (part.extend backward e).bind (extendByRow backward parts)
termination_by structural parts => parts

/-- Extends an automaton by choices, given how many there were before.  The states that bind them
together come after the second. -/
def extendByChoices (backward : Bool) : (before : Nat) → List NormalForm → Extent → Option Extent
  | _, [], e => some e
  | before, n :: ns, e =>
    (n.extend backward e).bind fun e =>
      extendByChoices backward (before + 1) ns (e.grow (if before = 1 then 2 else 0) 4)
termination_by structural _ ns => ns

end

/-- What stands before an expression in an automaton: a single state, or a loop over bytes where a
match may start later. -/
def preamble (anchored : Bool) : Extent := if anchored then ⟨1, 0⟩ else ⟨3, 16⟩

/-- The automaton that reads forwards, in which the whole match is a group. -/
def forwardExtent? (n : NormalForm) : Option Extent :=
  (n.extend false ((preamble n.startsAtTextStart).grow 1 0)).map (·.grow 2 0)

/-- The automaton that reads backwards. -/
def backwardExtent? (n : NormalForm) : Option Extent :=
  (n.extend true (preamble n.endsAtTextEnd)).map (·.grow 1 0)

/-- Whether both automata are small enough. -/
def fits (n : NormalForm) : Bool :=
  n.forwardExtent?.any Extent.fits && n.backwardExtent?.any Extent.fits

end NormalForm
end Regex
end DocFilter
