import DocFilter.Number.Shortest

/-!
# JSON values

Documents are JSON values.  A number is kept either as an integer or as a finite double, which is
how the document spelled it; its decimal value is the one its text denotes, so that `9` and `9.0`
are different numbers with one value.
-/

namespace DocFilter

/-- A number of a document. -/
inductive JsonNumber where
  | integer (n : Int)
  | double (x : Binary64) (finite : x.IsFinite)
  deriving DecidableEq, Repr

/-- A JSON value.  The members of an object are in the order of their keys. -/
inductive Json where
  | null
  | bool (b : Bool)
  | number (n : JsonNumber)
  | string (s : String)
  | array (items : List Json)
  | object (members : List (String × Json))
  deriving Repr

namespace JsonNumber

/-- The double closest to the number. -/
def toBinary64 : JsonNumber → Binary64
  | integer n => .nearest (.ofInt n)
  | double x _ => x

/-- Magnitudes from `1e-5` up to `1e16` are written with a point, the rest with an exponent. -/
def isPositional (x : Scientific) : Bool :=
  x.significand == 0 || (-5 ≤ x.leadingExponent && x.leadingExponent < 16)

/-- The decimal of a magnitude, which has a fraction digit at least in positional notation. -/
def decimalOfMagnitude (x : Scientific) : Decimal :=
  if isPositional x && 0 ≤ x.exponent then
    ⟨x.significand * Decimal.powTen (x.exponent.toNat + 1), 1⟩
  else .ofScientific x.significand x.exponent

/-- The exact value that the text of the number denotes. -/
def toDecimal : JsonNumber → Decimal
  | integer n => .ofInt n
  | double x _ =>
    let d := decimalOfMagnitude (Binary64.shortest x.rank)
    if x.negative then ⟨-d.coefficient, d.scale⟩ else d

/-- One digit, a point and the other digits if there are any, and an exponent with its sign. -/
def scientificText (x : Scientific) : List Char :=
  let fraction := x.digits.drop 1
  let mantissa := x.digits.take 1 ++ if fraction.isEmpty then [] else '.' :: fraction
  let exponent := x.leadingExponent
  mantissa ++ 'e' :: (if exponent < 0 then '-' else '+') :: Decimal.digits exponent.natAbs

/-- The text of the number: an integer's digits, or the fewest digits that read back. -/
def text : JsonNumber → List Char
  | integer n => (Decimal.ofInt n).plain
  | double x _ =>
    let shortest := Binary64.shortest x.rank
    let unsigned :=
      if isPositional shortest then (decimalOfMagnitude shortest).plain
      else scientificText shortest
    if x.negative then '-' :: unsigned else unsigned

end JsonNumber

namespace Json

/-- What kind of value it is, in words. -/
def typeName : Json → String
  | null => "null"
  | bool _ => "boolean"
  | number _ => "number"
  | string _ => "string"
  | array _ => "array"
  | object _ => "object"

/-- Whether the value is null. -/
def isNull : Json → Bool
  | null => true
  | _ => false

/-- The member of an object with the given key. -/
def get? (v : Json) (key : String) : Option Json :=
  match v with
  | object members => members.lookup key
  | _ => none

/-- The text of a scalar: a string as it stands, a number or a truth value as it is written. -/
def scalarText? : Json → Option (List Char)
  | string s => some s.toList
  | number n => some n.text
  | bool b => some (toString b).toList
  | _ => none

end Json

end DocFilter
