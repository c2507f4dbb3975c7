import DocFilter.Json.Basic

/-!
# Reading JSON text

A strict reader: the blanks are space, tab, line feed and carriage return only, strings hold no raw
control characters and no lone surrogates, nothing may follow the value, and arrays and objects nest
at most 127 deep.  Of members with one key the last counts, and members are put in the order of
their keys.  A number without fraction and exponent that fits 64 bits is an integer; any other is
the nearest double, and one too large for a double is refused.

Every rule takes a prefix off the text and hands out the rest; `Shortens` says that the rest is
shorter, which is what the loops over items and members end by.
-/

namespace DocFilter
namespace Json

/-- A rule takes a value off the front of a text, or refuses the text. -/
abbrev Rule (α : Type) := List Char → Option (α × List Char)

/-- Whether `rule` takes at least one character whenever it takes anything. -/
def Rule.Shortens {α : Type} (rule : Rule α) : Prop :=
  ∀ {s : List Char} {a : α} {rest : List Char}, rule s = some (a, rest) → rest.length < s.length

/-- Whether `c` is white space between the tokens of JSON text. -/
def isJsonBlank (c : Char) : Bool := c == ' ' || c == '\t' || c == '\n' || c == '\r'

/-- The text after its leading blanks. -/
def skipJsonBlanks (s : List Char) : List Char := s.dropWhile isJsonBlank

theorem length_skipJsonBlanks_le (s : List Char) : (skipJsonBlanks s).length ≤ s.length :=
  (List.dropWhile_suffix _).length_le

/-- What follows a character after the blanks is shorter than the text. -/
theorem length_lt_of_skipJsonBlanks_eq_cons {c : Char} {s rest : List Char}
    (h : skipJsonBlanks s = c :: rest) : rest.length < s.length := by
  have := length_skipJsonBlanks_le s
  rw [h, List.length_cons] at this
  omega

/-! ### Strings -/

/-- The value of a hexadecimal digit. -/
def hexValue? (c : Char) : Option Nat :=
  if c.isDigit then some (c.toNat - '0'.toNat)
  else if 'a' ≤ c ∧ c ≤ 'f' then some (c.toNat - 'a'.toNat + 10)
  else if 'A' ≤ c ∧ c ≤ 'F' then some (c.toNat - 'A'.toNat + 10)
  else none

/-- Four hexadecimal digits. -/
def codeUnit : Rule Nat
  | a :: b :: c :: d :: s => do
    let a ← hexValue? a
    let b ← hexValue? b
    let c ← hexValue? c
    let d ← hexValue? d
    some (((a * 16 + b) * 16 + c) * 16 + d, s)
  | _ => none

/-- What stands after `\u`: a code point outside the surrogates, or a high surrogate and, in an
escape of its own, a low one. -/
def codePoint : Rule Char := fun s =>
  match codeUnit s with
  | none => none
  | some (unit, rest) =>
    if 0xD800 ≤ unit ∧ unit < 0xDC00 then
      match rest with
      | '\\' :: 'u' :: s =>
        match codeUnit s with
        | some (low, rest) =>
          if 0xDC00 ≤ low ∧ low < 0xE000 then
            some (Char.ofNat (0x10000 + (unit - 0xD800) * 0x400 + (low - 0xDC00)), rest)
          else none
        | none => none
      | _ => none
    else if 0xDC00 ≤ unit ∧ unit < 0xE000 then none
    else some (Char.ofNat unit, rest)

/-- The character that a backslash and `c` stand for. -/
def unescape? (c : Char) : Option Char :=
  match c with
  | '"' => some '"'
  | '\\' => some '\\'
  | '/' => some '/'
  | 'b' => some '\x08'
  | 'f' => some '\x0c'
  | 'n' => some '\n'
  | 'r' => some '\r'
  | 't' => some '\t'
  | _ => none

/-- One character of a string. -/
def character : Rule Char
  | '\\' :: 'u' :: s => codePoint s
  | '\\' :: c :: s => (unescape? c).map (·, s)
  | c :: s => if c = '\\' ∨ c.toNat < 0x20 then none else some (c, s)
  | [] => none

theorem codeUnit_shortens : codeUnit.Shortens := by
  intro s a rest h
  unfold codeUnit at h
  split at h
  · next a b c d s =>
    simp only [Option.bind_eq_bind, Option.bind_eq_some_iff, Option.some.injEq, Prod.mk.injEq] at h
    obtain ⟨_, _, _, _, _, _, _, _, _, rfl⟩ := h
    simp only [List.length_cons]
    omega
  · simp at h

theorem codePoint_shortens : codePoint.Shortens := by
  intro s a rest h
  unfold codePoint at h
  split at h
  · simp at h
  · next unit r hr =>
    have h1 := codeUnit_shortens hr
    split at h
    · split at h
      · next r s' =>
        split at h
        · next low r' hr' =>
          have h2 := codeUnit_shortens hr'
          split at h
          · simp only [Option.some.injEq, Prod.mk.injEq] at h
            obtain ⟨_, rfl⟩ := h
            simp only [List.length_cons] at h1
            omega
          · simp at h
        · simp at h
      · simp at h
    · split at h
      · simp at h
      · simp only [Option.some.injEq, Prod.mk.injEq] at h
        obtain ⟨_, rfl⟩ := h
        exact h1

theorem character_shortens : character.Shortens := by
  intro s a rest h
  unfold character at h
  split at h
  · have := codePoint_shortens h
    simp only [List.length_cons]
    omega
  · simp only [Option.map_eq_some_iff, Prod.mk.injEq] at h
    obtain ⟨_, _, _, rfl⟩ := h
    simp only [List.length_cons]
    omega
  · split at h
    · simp at h
    · simp only [Option.some.injEq, Prod.mk.injEq] at h
      obtain ⟨_, rfl⟩ := h
      simp
  · simp at h

/-- The characters of a string up to its closing quote, which is taken too. -/
def characters (s : List Char) : Option (List Char × List Char) :=
  match s with
  | '"' :: rest => some ([], rest)
  | s =>
    match _ : character s with
    | none => none
    | some (c, rest) => (characters rest).map fun (cs, rest) => (c :: cs, rest)
termination_by s.length
decreasing_by exact character_shortens ‹_›

/-- A string, from its opening quote to its closing one. -/
def string? : Rule String
  | '"' :: s => (characters s).map fun (cs, rest) => (String.ofList cs, rest)
  | _ => none

/-! ### Numbers -/

/-- A row of digits, at least one. -/
def digits? (s : List Char) : Option (List Char × List Char) :=
  let ds := s.takeWhile Char.isDigit
  if ds.isEmpty then none else some (ds, s.dropWhile Char.isDigit)

/-- The digits before the point: a zero stands alone. -/
def wholeDigits? : List Char → Option (List Char × List Char)
  | '0' :: s => some (['0'], s)
  | s => digits? s

/-- A point and digits, if there is a point. -/
def fractionDigits? : List Char → Option (Option (List Char) × List Char)
  | '.' :: s => (digits? s).map fun (ds, rest) => (some ds, rest)
  | s => some (none, s)

/-- An exponent, if its mark stands there. -/
def exponent? : List Char → Option (Option Int × List Char)
  | c :: s =>
    if c = 'e' ∨ c = 'E' then
      let (negative, s) := match s with
        | '-' :: s => (true, s)
        | '+' :: s => (false, s)
        | s => (false, s)
      (digits? s).map fun (ds, rest) =>
        let n : Int := Decimal.ofDigits ds
        (some (if negative then -n else n), rest)
    else some (none, c :: s)
  | [] => some (none, [])

/-- The double nearest to `± significand * 10 ^ exponent`, unless that is beyond the largest one.
No significand of `length` digits needs exponents outside the clamped range: all above it are too
large and all below it round to zero. -/
def double? (negative : Bool) (significand length : Nat) (exponent : Int) : Option JsonNumber :=
  let d := Decimal.ofScientific significand (max (-(length + 400)) (min exponent 400))
  let x := { Binary64.nearest d with negative }
  if finite : x.IsFinite then some (.double x finite) else none

/-- The largest integer of 64 bits without a sign. -/
def maxUnsigned : Nat := 0xFFFFFFFFFFFFFFFF

/-- The magnitude of the least integer of 64 bits with a sign. -/
def maxNegative : Nat := 0x8000000000000000

/-- An integer, if it fits 64 bits with or without a sign; a negative zero and all others are
doubles. -/
def integer? (negative : Bool) (digits : List Char) : Option JsonNumber :=
  let n := Decimal.ofDigits digits
  if negative ∧ 0 < n ∧ n ≤ maxNegative then some (.integer (-n))
  else if ¬negative ∧ n ≤ maxUnsigned then some (.integer n)
  else double? negative n digits.length 0

/-- The number with the given digits and exponent. -/
def numberOf? (negative : Bool) (whole : List Char) :
    (fraction : Option (List Char)) → (exponent : Option Int) → Option JsonNumber
  | none, none => integer? negative whole
  | fraction, exponent =>
    let fraction := fraction.getD []
    let ds := whole ++ fraction
    double? negative (Decimal.ofDigits ds) ds.length (exponent.getD 0 - fraction.length)

/-- A number. -/
def number? : Rule JsonNumber := fun s => do
  let (negative, s) := Decimal.splitSign s
  let (whole, s) ← wholeDigits? s
  let (fraction, s) ← fractionDigits? s
  let (exponent, s) ← exponent? s
  let n ← numberOf? negative whole fraction exponent
  some (n, s)

theorem digits?_shortens {s ds rest : List Char} (h : digits? s = some (ds, rest)) :
    rest.length < s.length := by
  simp only [digits?] at h
  split at h
  · simp at h
  · next hds =>
    simp only [Option.some.injEq, Prod.mk.injEq] at h
    obtain ⟨_, rfl⟩ := h
    have hlen := congrArg List.length (List.takeWhile_append_dropWhile (p := Char.isDigit) (l := s))
    have : 0 < (s.takeWhile Char.isDigit).length :=
      List.length_pos_iff.2 fun h => hds (by simp [h])
    simp only [List.length_append] at hlen
    omega

theorem wholeDigits?_shortens {s ds rest : List Char} (h : wholeDigits? s = some (ds, rest)) :
    rest.length < s.length := by
  unfold wholeDigits? at h
  split at h
  · simp only [Option.some.injEq, Prod.mk.injEq] at h
    obtain ⟨_, rfl⟩ := h
    simp
  · exact digits?_shortens h

theorem fractionDigits?_le {s rest : List Char} {ds : Option (List Char)}
    (h : fractionDigits? s = some (ds, rest)) : rest.length ≤ s.length := by
  unfold fractionDigits? at h
  split at h
  · simp only [Option.map_eq_some_iff, Prod.mk.injEq, Prod.exists] at h
    obtain ⟨_, _, h, _, rfl⟩ := h
    have := digits?_shortens h
    simp only [List.length_cons]
    omega
  · simp only [Option.some.injEq, Prod.mk.injEq] at h
    simp [h.2]

theorem exponent?_le {s rest : List Char} {n : Option Int} (h : exponent? s = some (n, rest)) :
    rest.length ≤ s.length := by
  unfold exponent? at h
  split at h
  · next c s =>
    split at h
    · simp only [Option.map_eq_some_iff, Prod.mk.injEq, Prod.exists] at h
      obtain ⟨_, _, h, _, rfl⟩ := h
      have := digits?_shortens h
      split at this <;> simp only [List.length_cons] at * <;> omega
    · simp only [Option.some.injEq, Prod.mk.injEq] at h
      simp [← h.2]
  · simp only [Option.some.injEq, Prod.mk.injEq] at h
    simp [← h.2]

theorem splitSign_le (s : List Char) : (Decimal.splitSign s).2.length ≤ s.length := by
  unfold Decimal.splitSign
  split <;> simp

theorem number?_shortens : number?.Shortens := by
  intro s a rest h
  simp only [number?, Option.bind_eq_bind, Option.bind_eq_some_iff, Option.some.injEq,
    Prod.mk.injEq, Prod.exists] at h
  obtain ⟨_, _, h1, _, _, h2, _, _, h3, _, _, _, rfl⟩ := h
  have := splitSign_le s
  have := wholeDigits?_shortens h1
  have := fractionDigits?_le h2
  have := exponent?_le h3
  omega

/-! ### Values -/

/-- Puts a member into its place by the order of keys, over one with the same key. -/
def insertMember (key : String) (v : Json) : List (String × Json) → List (String × Json)
  | [] => [(key, v)]
  | (k, w) :: members =>
    if key < k then (key, v) :: (k, w) :: members
    else if key = k then (key, v) :: members
    else (k, w) :: insertMember key v members

/-- The items of an array after its bracket and one item, up to the closing bracket. -/
def moreItems (value : Rule Json) (shortens : value.Shortens) (s : List Char) :
    Option (List Json × List Char) :=
  match _ : skipJsonBlanks s with
  | ']' :: rest => some ([], rest)
  | ',' :: rest =>
    match _ : value rest with
    | none => none
    | some (v, rest') =>
      (moreItems value shortens rest').map fun (vs, rest) => (v :: vs, rest)
  | _ => none
termination_by s.length
decreasing_by exact Nat.lt_trans (shortens ‹_›) (length_lt_of_skipJsonBlanks_eq_cons ‹_›)

/-- The items of an array after its bracket. -/
def items (value : Rule Json) (shortens : value.Shortens) (s : List Char) :
    Option (List Json × List Char) :=
  match skipJsonBlanks s with
  | ']' :: rest => some ([], rest)
  | s =>
    match value s with
    | none => none
    | some (v, rest) => (moreItems value shortens rest).map fun (vs, rest) => (v :: vs, rest)

/-- A key, a colon and a value. -/
def member (value : Rule Json) : Rule (String × Json) := fun s =>
  match string? (skipJsonBlanks s) with
  | none => none
  | some (key, rest) =>
    match skipJsonBlanks rest with
    | ':' :: rest => (value rest).map fun (v, rest) => ((key, v), rest)
    | _ => none

theorem characters_le {s cs rest : List Char} (h : characters s = some (cs, rest)) :
    rest.length ≤ s.length := by
  fun_induction characters s generalizing cs rest with
  | case1 r =>
    simp only [Option.some.injEq, Prod.mk.injEq] at h
    simp [← h.2]
  | case2 => simp at h
  | case3 s _ c r hc ih =>
    simp only [Option.map_eq_some_iff, Prod.mk.injEq, Prod.exists] at h
    obtain ⟨_, _, h, _, rfl⟩ := h
    have := ih h
    have := character_shortens hc
    omega

theorem string?_shortens : string?.Shortens := by
  intro s a rest h
  unfold string? at h
  split at h
  · simp only [Option.map_eq_some_iff, Prod.mk.injEq, Prod.exists] at h
    obtain ⟨_, _, h, _, rfl⟩ := h
    have := characters_le h
    simp only [List.length_cons]
    omega
  · simp at h

theorem member_shortens {value : Rule Json} (shortens : value.Shortens) :
    (member value).Shortens := by
  intro s a rest h
  unfold member at h
  split at h
  · simp at h
  · next key r hr =>
    have h1 := string?_shortens hr
    have h2 := length_skipJsonBlanks_le s
    split at h
    · next r' hr' =>
      have h3 := length_lt_of_skipJsonBlanks_eq_cons hr'
      simp only [Option.map_eq_some_iff, Prod.mk.injEq, Prod.exists] at h
      obtain ⟨_, _, h, _, rfl⟩ := h
      have := shortens h
      omega
    · simp at h

/-- The members of an object after its brace and one member, up to the closing brace, put over the
members read before. -/
def moreMembers (value : Rule Json) (shortens : value.Shortens) (before : List (String × Json))
    (s : List Char) : Option (List (String × Json) × List Char) :=
  match _ : skipJsonBlanks s with
  | '\x7d' :: rest => some (before, rest)
  | ',' :: rest =>
    match _ : member value rest with
    | none => none
    | some ((key, v), rest') => moreMembers value shortens (insertMember key v before) rest'
  | _ => none
termination_by s.length
decreasing_by
  exact Nat.lt_trans (member_shortens shortens ‹_›) (length_lt_of_skipJsonBlanks_eq_cons ‹_›)

/-- The members of an object after its brace. -/
def members (value : Rule Json) (shortens : value.Shortens) (s : List Char) :
    Option (List (String × Json) × List Char) :=
  match skipJsonBlanks s with
  | '\x7d' :: rest => some ([], rest)
  | s =>
    match member value s with
    | none => none
    | some ((key, v), rest) => moreMembers value shortens [(key, v)] rest

theorem moreItems_le {value : Rule Json} {shortens : value.Shortens} {s rest : List Char}
    {vs : List Json} (h : moreItems value shortens s = some (vs, rest)) :
    rest.length ≤ s.length := by
  fun_induction moreItems value shortens s generalizing vs rest with
  | case1 s r hs =>
    simp only [Option.some.injEq, Prod.mk.injEq] at h
    exact h.2 ▸ Nat.le_of_lt (length_lt_of_skipJsonBlanks_eq_cons hs)
  | case2 => simp at h
  | case3 s r hs v r' hv ih =>
    simp only [Option.map_eq_some_iff, Prod.mk.injEq, Prod.exists] at h
    obtain ⟨_, _, h, _, rfl⟩ := h
    have := ih h
    have := shortens hv
    have := length_lt_of_skipJsonBlanks_eq_cons hs
    omega
  | case4 => simp at h

theorem items_le {value : Rule Json} {shortens : value.Shortens} {s rest : List Char}
    {vs : List Json} (h : items value shortens s = some (vs, rest)) : rest.length ≤ s.length := by
  have hs := length_skipJsonBlanks_le s
  unfold items at h
  split at h
  · next r hr =>
    simp only [Option.some.injEq, Prod.mk.injEq] at h
    exact h.2 ▸ Nat.le_of_lt (length_lt_of_skipJsonBlanks_eq_cons hr)
  · split at h
    · simp at h
    · next v r hv =>
      simp only [Option.map_eq_some_iff, Prod.mk.injEq, Prod.exists] at h
      obtain ⟨_, _, h, _, rfl⟩ := h
      have := moreItems_le h
      have := shortens hv
      omega

theorem moreMembers_le {value : Rule Json} {shortens : value.Shortens}
    {before ms : List (String × Json)} {s rest : List Char}
    (h : moreMembers value shortens before s = some (ms, rest)) : rest.length ≤ s.length := by
  fun_induction moreMembers value shortens before s with
  | case1 before s r hs =>
    simp only [Option.some.injEq, Prod.mk.injEq] at h
    exact h.2 ▸ Nat.le_of_lt (length_lt_of_skipJsonBlanks_eq_cons hs)
  | case2 => simp at h
  | case3 before s r hs key v r' hv ih =>
    have := ih h
    have := member_shortens shortens hv
    have := length_lt_of_skipJsonBlanks_eq_cons hs
    omega
  | case4 => simp at h

theorem members_le {value : Rule Json} {shortens : value.Shortens} {s rest : List Char}
    {ms : List (String × Json)} (h : members value shortens s = some (ms, rest)) :
    rest.length ≤ s.length := by
  have hs := length_skipJsonBlanks_le s
  unfold members at h
  split at h
  · next r hr =>
    simp only [Option.some.injEq, Prod.mk.injEq] at h
    exact h.2 ▸ Nat.le_of_lt (length_lt_of_skipJsonBlanks_eq_cons hr)
  · split at h
    · simp at h
    · next key v r hv =>
      have := moreMembers_le h
      have := member_shortens shortens hv
      omega

/-- The fixed words of the format. -/
def constant? (s : List Char) : Option (Json × List Char) :=
  match s with
  | 'n' :: 'u' :: 'l' :: 'l' :: rest => some (null, rest)
  | 't' :: 'r' :: 'u' :: 'e' :: rest => some (bool true, rest)
  | 'f' :: 'a' :: 'l' :: 's' :: 'e' :: rest => some (bool false, rest)
  | _ => none

/-- A value that is neither an array nor an object. -/
def scalar? : Rule Json := fun s =>
  match constant? s with
  | some read => some read
  | none =>
    match string? s with
    | some (t, rest) => some (string t, rest)
    | none => (number? s).map fun (n, rest) => (number n, rest)

theorem scalar?_shortens : scalar?.Shortens := by
  intro s a rest h
  unfold scalar? at h
  split at h
  · next hc =>
    unfold constant? at hc
    split at hc <;> simp only [Option.some.injEq, reduceCtorEq] at hc <;>
      · rw [← hc, Option.some.injEq, Prod.mk.injEq] at h
        simp only [← h.2, List.length_cons]
        omega
  · split at h
    · next ht =>
      simp only [Option.some.injEq, Prod.mk.injEq] at h
      rw [← h.2]
      exact string?_shortens ht
    · simp only [Option.map_eq_some_iff, Prod.mk.injEq, Prod.exists] at h
      obtain ⟨_, _, h, _, rfl⟩ := h
      exact number?_shortens h

/-- An array or an object, given the rule for the values in it. -/
def container? (value : Rule Json) (shortens : value.Shortens) : Rule Json
  | '[' :: s => (items value shortens s).map fun (vs, rest) => (array vs, rest)
  | '\x7b' :: s => (members value shortens s).map fun (ms, rest) => (object ms, rest)
  | _ => none

theorem container?_shortens {value : Rule Json} (shortens : value.Shortens) :
    (container? value shortens).Shortens := by
  intro s a rest h
  unfold container? at h
  split at h
  · simp only [Option.map_eq_some_iff, Prod.mk.injEq, Prod.exists] at h
    obtain ⟨_, _, h, _, rfl⟩ := h
    have := items_le h
    simp only [List.length_cons]
    omega
  · simp only [Option.map_eq_some_iff, Prod.mk.injEq, Prod.exists] at h
    obtain ⟨_, _, h, _, rfl⟩ := h
    have := members_le h
    simp only [List.length_cons]
    omega
  · simp at h

/-- A value after any blanks, in which arrays and objects nest at most `depth` deep. -/
def valueRule : (depth : Nat) → { rule : Rule Json // rule.Shortens }
  | 0 => ⟨fun s => scalar? (skipJsonBlanks s), fun {s _ _} h =>
      Nat.lt_of_lt_of_le (scalar?_shortens h) (length_skipJsonBlanks_le s)⟩
  | depth + 1 =>
    let inner := valueRule depth
    ⟨fun s =>
      match container? inner.1 inner.2 (skipJsonBlanks s) with
      | some read => some read
      | none => scalar? (skipJsonBlanks s), by
      intro s a rest h
      refine Nat.lt_of_lt_of_le ?_ (length_skipJsonBlanks_le s)
      dsimp only at h
      split at h
      · next hc => exact container?_shortens inner.2 (hc.trans h)
      · exact scalar?_shortens h⟩

/-- How deep arrays and objects may nest. -/
def maxDepth : Nat := 127

/-- The value that a text denotes, blanks around it allowed. -/
def ofText? (s : List Char) : Option Json :=
  match (valueRule maxDepth).1 s with
  | some (v, rest) => if (skipJsonBlanks rest).isEmpty then some v else none
  | none => none

end Json
end DocFilter
