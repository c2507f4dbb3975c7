import DocFilter.Regex.Escape

/-!
# Reading bracketed classes

A class in brackets holds characters, ranges, other classes, and operations between them, which are
all taken from left to right.  A closing bracket or dashes right after the opening one stand for
themselves.
-/

namespace DocFilter
namespace Regex

/-- One part of a class: an escape or a character that stands for itself. -/
def classPrimitive (extended : Bool) : List Char → Taken Escape
  | '\\' :: s => escape extended s
  | c :: s => some (.literal ⟨c, false⟩, s)
  | [] => none

/-- A part of a class that is no end of a range. -/
def itemOf? : Escape → Option ClassSet
  | .literal l => some (.literal l)
  | .shorthand negated c => some (.shorthand negated c)
  | .property p => some (.property p)
  | .assertion _ => none

/-- The next character after blanks, and after the sign of a comment if there is one. -/
def peekPast : (inComment : Bool) → List Char → Option Char
  | _, [] => none
  | inComment, c :: s =>
    if isBlank c then peekPast inComment s
    else if !inComment && c == '#' then peekPast true s
    else some c

/-- The character that decides whether a dash before `s` makes a range. -/
def peekSpace (extended : Bool) (s : List Char) : Option Char :=
  if extended then peekPast false s <|> s.head? else s.head?

/-- A part of a class or a range of two. -/
def classRange (extended : Bool) (s : List Char) : Option (ClassSet × List Char) := do
  let (first, s) ← classPrimitive extended s
  match skipSpace extended s with
  | [] => none
  | '-' :: rest =>
    if peekSpace extended rest = some ']' ∨ peekSpace extended rest = some '-' then
      some (← itemOf? first, '-' :: rest)
    else do
      let (second, rest) ← classPrimitive extended (skipSpace extended rest)
      match first, second with
      | .literal lo, .literal hi =>
        if lo.char ≤ hi.char then some (.range lo hi, rest) else none
      | _, _ => none
  | s => some (← itemOf? first, s)

/-- The class of ASCII characters that goes by a name. -/
def asciiClassOfName? (name : List Char) : Option AsciiClass :=
  match String.ofList name with
  | "alnum" => some .alnum
  | "alpha" => some .alpha
  | "ascii" => some .ascii
  | "blank" => some .blank
  | "cntrl" => some .cntrl
  | "digit" => some .digit
  | "graph" => some .graph
  | "lower" => some .lower
  | "print" => some .print
  | "punct" => some .punct
  | "space" => some .space
  | "upper" => some .upper
  | "word" => some .word
  | "xdigit" => some .xdigit
  | _ => none

/-- A class of ASCII characters by its name, between colons, after an opening bracket. -/
def asciiClass (s : List Char) : Taken ClassSet :=
  match s with
  | ':' :: s =>
    let (negated, s) := match s with
      | '^' :: s => (true, s)
      | s => (false, s)
    match s.dropWhile (· != ':') with
    | ':' :: ']' :: rest =>
      (asciiClassOfName? (s.takeWhile (· != ':'))).map fun c => (.ascii negated c, rest)
    | _ => none
  | _ => none

/-- What follows an opening bracket: whether the class is negated, and the dashes, or the closing
bracket, that stand for themselves. -/
def classOpening (extended : Bool) (s : List Char) : Bool × List ClassSet × List Char :=
  let (negated, s) := match skipSpace extended s with
    | '^' :: s => (true, skipSpace extended s)
    | s => (false, s)
  let (dashes, s) := takeSpaced (· == '-') extended false s
  let items := dashes.map fun c => ClassSet.literal ⟨c, false⟩
  match items, s with
  | [], ']' :: s => (negated, [.literal ⟨']', false⟩], s)
  | items, s => (negated, items, s)

/-- The operation that has its sign at the front of the text. -/
def setOp? : List Char → Taken SetOp
  | '&' :: '&' :: s => some (.intersection, s)
  | '-' :: '-' :: s => some (.difference, s)
  | '~' :: '~' :: s => some (.symmetricDifference, s)
  | _ => none

/-- The items read so far, the last of them first, joined with what stands left of them. -/
def joinItems (lhs : Option (ClassSet × SetOp)) (items : List ClassSet) : ClassSet :=
  let rhs := ClassSet.ofItems items.reverse
  match lhs with
  | some (lhs, o) => .op o lhs rhs
  | none => rhs

/-- The rest of a class up to the bracket that closes it, given what stands left of the last
operation and the items after it, the last of them first.  Each step takes at least one character,
so as many steps as there are characters are enough. -/
def classRest (extended : Bool) : (steps : Nat) → (lhs : Option (ClassSet × SetOp)) →
    (items : List ClassSet) → List Char → Taken ClassSet
  | 0, _, _, _ => none
  | steps + 1, lhs, items, s =>
    match skipSpace extended s with
    | [] => none
    | ']' :: rest => some (joinItems lhs items, rest)
    | '[' :: inner =>
      match asciiClass inner with
      | some (item, rest) => classRest extended steps lhs (item :: items) rest
      | none =>
        let (negated, opening, rest) := classOpening extended inner
        match classRest extended steps none opening.reverse rest with
        | some (set, rest) => classRest extended steps lhs (.bracketed negated set :: items) rest
        | none => none
    | s =>
      match setOp? s with
      | some (o, rest) => classRest extended steps (some (joinItems lhs items, o)) [] rest
      | none =>
        match classRange extended s with
        | some (item, rest) => classRest extended steps lhs (item :: items) rest
        | none => none

/-- A class after its opening bracket: whether it is negated, and what it holds. -/
def bracketedClass (extended : Bool) (s : List Char) : Taken (Bool × ClassSet) :=
  let (negated, opening, rest) := classOpening extended s
  (classRest extended (rest.length + 1) none opening.reverse rest).map fun (set, rest) =>
    ((negated, set), rest)

end Regex
end DocFilter
