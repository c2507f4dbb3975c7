/-!
# Tables of code points

A `RangeTable` is a set of code points as ascending ranges.  Tables are written as text: one word
for each range, in hexadecimal digits, which gives the distance from the end of the range before it
and, after a `+`, how many code points follow the first.
-/

namespace DocFilter
namespace Unicode

/-- Ranges of code points, each by its first and last, in ascending order. -/
abbrev RangeTable := List (Nat × Nat)

namespace RangeTable

/-- Whether a code point is in one of the ranges. -/
def contains : RangeTable → Nat → Bool
  | [], _ => false
  | (first, last) :: ranges, n => if last < n then contains ranges n else first ≤ n

/-! ### Operations on ranges -/

/-- Ranges in ascending order of their beginnings, put behind a range that begins before them, with
ranges joined that overlap or meet. -/
def joinOnto (range : Nat × Nat) : RangeTable → RangeTable
  | [] => [range]
  | next :: ranges =>
    if next.1 ≤ range.2 + 1 then joinOnto (range.1, max range.2 next.2) ranges
    else range :: joinOnto next ranges

/-- Ranges in ascending order of their beginnings, with those joined that overlap or meet. -/
def coalesce : RangeTable → RangeTable
  | [] => []
  | range :: ranges => joinOnto range ranges

/-- What lies in one of two tables. -/
def join (a b : RangeTable) : RangeTable := coalesce (List.merge a b fun r s => r.1 ≤ s.1)

/-- What lies between ranges and after them, from a code point on. -/
def gapsFrom (start : Nat) : RangeTable → RangeTable
  | [] => if start ≤ 0x10FFFF then [(start, 0x10FFFF)] else []
  | (first, last) :: ranges =>
    if start < first then (start, first - 1) :: gapsFrom (last + 1) ranges
    else gapsFrom (last + 1) ranges

/-- What lies in none of the ranges. -/
def complement (ranges : RangeTable) : RangeTable := gapsFrom 0 ranges

/-- What lies in both of two tables. -/
def meet (a b : RangeTable) : RangeTable := complement (join (complement a) (complement b))

/-- The second members of the pairs whose first members lie in the ranges, where both ascend. -/
def partners : RangeTable → (pairs : List (Nat × Nat)) → List Nat
  | [], _ => []
  | (first, last) :: ranges, pairs =>
    let pairs := pairs.dropWhile (·.1 < first)
    (pairs.takeWhile (·.1 ≤ last)).map (·.2) ++ partners ranges (pairs.dropWhile (·.1 ≤ last))

/-- The ranges and all partners of what lies in them. -/
def withPartners (pairs : List (Nat × Nat)) (ranges : RangeTable) : RangeTable :=
  join ranges (coalesce ((partners ranges pairs).mergeSort.map fun n => (n, n)))

/-! ### Tables as text -/

def hexValue (c : Char) : Nat :=
  if c.isDigit then c.toNat - '0'.toNat else c.toNat - 'a'.toNat + 10

/-- The number that a row of hexadecimal digits denotes. -/
def ofHex (digits : List Char) : Nat := digits.foldl (fun n c => 16 * n + hexValue c) 0

/-- The range of a word, given the end of the range before it. -/
def ofWord (before : Nat) (word : List Char) : Nat × Nat :=
  let first := before + ofHex (word.takeWhile (· != '+'))
  (first, first + ofHex ((word.dropWhile (· != '+')).drop 1))

/-- The ranges of words in a row, given the end of the range before them. -/
def ofWords (before : Nat) : List (List Char) → RangeTable
  | [] => []
  | word :: words =>
    let range := ofWord before word
    range :: ofWords range.2 words

/-- The words of a text, the last character of each first. -/
def words : (current : List Char) → List Char → List (List Char)
  | current, [] => if current.isEmpty then [] else [current.reverse]
  | current, c :: cs =>
    if c = ' ' then
      if current.isEmpty then words [] cs else current.reverse :: words [] cs
    else words (c :: current) cs

/-- The table that lines of text spell out. -/
def ofLines (lines : List String) : RangeTable :=
  ofWords 0 (lines.flatMap fun line => words [] line.toList)

end RangeTable
end Unicode
end DocFilter
