/-!
# Exact decimals

A `Decimal` is an integer coefficient with a number of fraction digits.  The number of fraction
digits belongs to the spelling and not to the value: `9` and `9.0` are different decimals and equal
ones under `==`.  Main definitions: the literal a text denotes, with or without an exponent, and the
plain rendering, which keeps every fraction digit.
-/

namespace DocFilter

/-- The number `coefficient / 10 ^ scale`, written with `scale` fraction digits. -/
structure Decimal where
  coefficient : Int
  scale : Nat
  deriving DecidableEq, Repr

namespace Decimal

/-- A one and `n` zeros. -/
def powTen (n : Nat) : Nat := Nat.pow 10 n

/-- Two decimals are equal when they denote the same number. -/
instance : BEq Decimal where
  beq a b := a.coefficient * powTen b.scale == b.coefficient * powTen a.scale

/-- An integer, without fraction digits. -/
def ofInt (n : Int) : Decimal := ⟨n, 0⟩

/-- `significand * 10 ^ exponent`, with fraction digits only where the exponent asks for them. -/
def ofScientific (significand exponent : Int) : Decimal :=
  if exponent < 0 then ⟨significand, exponent.natAbs⟩
  else ⟨significand * powTen exponent.natAbs, 0⟩

/-! ### Digits -/

/-- The number that a row of decimal digits denotes. -/
def ofDigits (digits : List Char) : Nat :=
  digits.foldl (fun n c => 10 * n + (c.toNat - '0'.toNat)) 0

/-- The decimal digits of a number, at least one. -/
def digits (n : Nat) : List Char := Nat.toDigits 10 n

/-- The digits of the text `whole` followed by those of `fraction`, as a decimal. -/
def ofParts (negative : Bool) (whole fraction : List Char) : Decimal :=
  let magnitude : Int := ofDigits (whole ++ fraction)
  ⟨if negative then -magnitude else magnitude, fraction.length⟩

/-! ### Reading -/

/-- Whether `s` is a row of digits, at least one. -/
def isDigits (s : List Char) : Bool := !s.isEmpty && s.all Char.isDigit

/-- A sign off the front of a number: whether it is a minus, and what follows. -/
def splitSign : List Char → Bool × List Char
  | '-' :: s => (true, s)
  | s => (false, s)

/-- Reads digits with an optional fraction, filling the whole text. -/
def ofUnsigned? (negative : Bool) (s : List Char) : Option Decimal :=
  let whole := s.takeWhile Char.isDigit
  match s.dropWhile Char.isDigit with
  | [] => if isDigits whole then some (ofParts negative whole []) else none
  | '.' :: fraction =>
    if isDigits whole && isDigits fraction then some (ofParts negative whole fraction) else none
  | _ => none

/-- Reads a literal: a minus or none, digits, and a point with further digits or none. -/
def ofLiteral? (s : List Char) : Option Decimal :=
  let (negative, unsigned) := splitSign s
  ofUnsigned? negative unsigned

/-- Reads an exponent: a sign or none, and digits. -/
def exponentOf? : List Char → Option Int
  | '-' :: s => if isDigits s then some (-(ofDigits s : Int)) else none
  | '+' :: s => if isDigits s then some (ofDigits s) else none
  | s => if isDigits s then some (ofDigits s) else none

/-- Reads a literal that may carry an exponent after an `e` or `E`. -/
def ofText? (s : List Char) : Option Decimal :=
  let isMark := fun c : Char => c == 'e' || c == 'E'
  match s.dropWhile (!isMark ·) with
  | [] => ofLiteral? s
  | _ :: exponent => do
    let mantissa ← ofLiteral? (s.takeWhile (!isMark ·))
    let exponent ← exponentOf? exponent
    some (ofScientific mantissa.coefficient (exponent - mantissa.scale))

/-! ### Writing -/

/-- Digits with at least one before the point and `scale` after it. -/
def plainDigits (magnitude scale : Nat) : List Char :=
  let ds := digits magnitude
  let padded := List.replicate (scale + 1 - ds.length) '0' ++ ds
  if scale = 0 then padded
  else padded.take (padded.length - scale) ++ '.' :: padded.drop (padded.length - scale)

/-- Plain notation: every fraction digit is written, and a minus only before a number below
zero. -/
def plain (d : Decimal) : List Char :=
  let unsigned := plainDigits d.coefficient.natAbs d.scale
  if d.coefficient < 0 then '-' :: unsigned else unsigned

end Decimal

end DocFilter
