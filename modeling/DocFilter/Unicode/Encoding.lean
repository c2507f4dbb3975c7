import DocFilter.Unicode.RangeTable

/-!
# Encoded ranges

The UTF-8 encodings of the code points of a range, as rows of byte ranges: a row stands for all
sequences that take each of their bytes from the range in its place.  After the first byte every
byte holds one digit to the base 64.
-/

namespace DocFilter
namespace Unicode

/-- The ranges of the bytes of some encodings, one for each place. -/
abbrev ByteRow := List (Nat × Nat)

/-- Code points whose encodings are of one length. -/
structure EncodingBlock where
  first : Nat
  last : Nat
  /-- How many bytes follow the first. -/
  following : Nat
  /-- What the first byte is beyond the digit that it holds. -/
  mark : Nat

/-- All code points that have encodings, which surrogates have not. -/
def encodingBlocks : List EncodingBlock := [
  ⟨0, 0x7F, 0, 0⟩, ⟨0x80, 0x7FF, 1, 0xC0⟩, ⟨0x800, 0xD7FF, 2, 0xE0⟩, ⟨0xE000, 0xFFFF, 2, 0xE0⟩,
  ⟨0x10000, 0x10FFFF, 3, 0xF0⟩]

/-- The rows of the numbers from `lo` to `hi`, written with `following` digits after the first; the
first byte is `mark` beyond its digit. -/
def digitRows : (following mark lo hi : Nat) → List ByteRow
  | 0, mark, lo, hi => [[(mark + lo, mark + hi)]]
  | following + 1, mark, lo, hi =>
    let unit := 1 <<< (6 * (following + 1))
    let under := fun (digit lo hi : Nat) =>
      (digitRows following 0x80 lo hi).map fun row => (mark + digit, mark + digit) :: row
    if lo / unit = hi / unit then under (lo / unit) (lo % unit) (hi % unit)
    else
      let front := if lo % unit = 0 then [] else under (lo / unit) (lo % unit) (unit - 1)
      let back := if (hi + 1) % unit = 0 then [] else under (hi / unit) 0 (hi % unit)
      let full := (lo + unit - 1) / unit
      let stop := (hi + 1) / unit
      let middle :=
        if full < stop then
          [(mark + full, mark + stop - 1) :: List.replicate (following + 1) (0x80, 0xBF)]
        else []
      front ++ middle ++ back

/-- The rows of the code points from `lo` to `hi` that are in a block. -/
def EncodingBlock.rows (b : EncodingBlock) (lo hi : Nat) : List ByteRow :=
  let lo := max lo b.first
  let hi := min hi b.last
  if lo ≤ hi then digitRows b.following b.mark lo hi else []

namespace RangeTable

/-- The rows of all ranges. -/
def encoded (ranges : RangeTable) : List ByteRow :=
  ranges.flatMap fun (lo, hi) => encodingBlocks.flatMap (·.rows lo hi)

end RangeTable

end Unicode
end DocFilter
