import DocFilter.Proofs.Equality
import DocFilter.Proofs.Json.Equality
import DocFilter.Proofs.Matching.Predicates

/-!
# Membership is equality with some item

`in`, `anyof` and `==` look literals up in different ways: among the literals of a list, among the
items of an array, or against the value that a path leads to, where JSON null may stand for a value
that is missing.  What they ask is one question, whether a literal denotes a value.  The equality of
literals and the equality of documents agree with it, so a path may be replaced by the literal for
the value it leads to; the only difference left is that `in` takes a missing or null value to be in
another one.
-/

namespace DocFilter

/-! ### What a literal denotes -/

namespace Operand

variable {x : Operand} {v : Json}

/-- A literal denotes the same string, a number of the same value, or null. -/
theorem denotes_cases (h : x.denotes v = true) :
    (∃ s, x = .string s ∧ v = .string s) ∨
      (∃ c n, x = .number c ∧ v = .number n ∧ (n.toDecimal == c) = true) ∨
        x = .null ∧ v = .null := by
  cases x with
  | string s =>
    cases v with
    | string t => exact .inl ⟨s, rfl, congrArg Json.string (eq_of_beq h).symm⟩
    | _ => cases h
  | number c =>
    cases v with
    | number n => exact .inr (.inl ⟨c, n, rfl, rfl, h⟩)
    | _ => cases h
  | null =>
    cases v with
    | null => exact .inr (.inr ⟨rfl, rfl⟩)
    | _ => cases h
  | _ => cases h

/-- What is equal to the value that a literal denotes is what the literal denotes. -/
theorem equiv_eq_denotes (h : x.denotes v = true) (w : Json) : w.equiv v = x.denotes w := by
  rcases denotes_cases h with ⟨s, rfl, rfl⟩ | ⟨c, n, rfl, rfl, hvalue⟩ | ⟨rfl, rfl⟩
  · cases w with
    | string t => exact BEq.comm
    | _ => rfl
  · cases w with
    | number m => exact BEq.congr_right hvalue
    | _ => rfl
  · cases w <;> rfl

/-- What is equal to a literal denotes what the literal denotes. -/
theorem equiv_eq_denotes_of_denotes (h : x.denotes v = true) (y : Operand) :
    x.equiv y = y.denotes v := by
  rcases denotes_cases h with ⟨s, rfl, rfl⟩ | ⟨c, n, rfl, rfl, hvalue⟩ | ⟨rfl, rfl⟩
  · cases y with
    | string t => exact BEq.comm
    | _ => rfl
  · cases y with
    | number e => exact BEq.congr_left (BEq.symm hvalue)
    | _ => rfl
  · cases y <;> rfl

/-- A literal is in a list exactly if some item denotes the value that it denotes. -/
theorem contains_eq_any_denotes (h : x.denotes v = true) (items : List Operand) :
    items.contains x = items.any (·.denotes v) := by
  rw [List.contains_eq_any_beq]
  exact congrArg items.any (funext (equiv_eq_denotes_of_denotes h))

theorem isScalar_of_denotes (h : x.denotes v = true) : x.isScalar = true := by
  rcases denotes_cases h with ⟨s, rfl, -⟩ | ⟨c, n, rfl, -⟩ | ⟨rfl, -⟩ <;> rfl

end Operand

namespace Matching

variable {options : MatchOptions} {d : Json} {op : Operator} {p q : Path} {left right x : Operand}
  {items : List Operand} {v : Json} {b : Bool}

/-- The outcome of comparing two operands.  A formula of this comparison alone has the same outcome,
if it is a verdict (`result_evaluate_alone`). -/
def outcome (options : MatchOptions) (d : Json) (left : Operand) (op : Operator)
    (right : Operand) : Except MatchFault Bool :=
  (verdict options d (.compare left op right)).result

/-- Whether an operator has the verdict `b` on its operands, and the one that denies it the opposite
verdict. -/
def Decides (options : MatchOptions) (d : Json) (left : Operand) (op denial : Operator)
    (right : Operand) (b : Bool) : Prop :=
  outcome options d left op right = .ok b ∧ outcome options d left denial right = .ok (!b)

/-! ### Operators and their denials -/

theorem decides_equality (h : ∀ op, equals d op left right = .ok b) :
    Decides options d left .equal .notEqual right b := by
  constructor
  · exact h .equal
  · show (equals d .notEqual left right).map (!·) = _
    rw [h]
    rfl

theorem decides_membership (h : ∀ op, (containedIn d op left right).result = .ok b) :
    Decides options d left .isIn .notIn right b := by
  constructor
  · exact h .isIn
  · show ((!·) <$> containedIn d .notIn left right).result = _
    rw [Logged.result_map, h]
    rfl

theorem decides_listing (hextended : options.extendedOperators = true)
    (h : ∀ op, anyListed d op left right = .ok b) :
    Decides options d left .anyOf .noneOf right b := by
  have hon : (!options.extendedOperators) = false := by rw [hextended]; rfl
  constructor
  · show (compareBy options d .anyOf left right).result = _
    simp only [compareBy, hon, Bool.and_false, Bool.false_eq_true, if_false]
    exact h .anyOf
  · show (compareBy options d .noneOf left right).result = _
    simp only [compareBy, hon, Bool.and_false, Bool.false_eq_true, if_false]
    show (anyListed d .noneOf left right).map (!·) = _
    rw [h]
    rfl

/-! ### Literals compared and looked up -/

/-- A value compared with a literal; one that is missing counts as null. -/
theorem decides_equal_literal (options : MatchOptions) (d : Json) (p : Path)
    (hx : x.isScalar = true) :
    Decides options d (.path p) .equal .notEqual x (x.denotes ((p.resolve d).getD .null)) := by
  refine decides_equality fun op => ?_
  cases x with
  | string s =>
    show Except.ok ((p.resolve d).any _) = _
    cases p.resolve d <;> rfl
  | number c =>
    show Except.ok ((p.resolve d).any _) = _
    cases p.resolve d <;> rfl
  | null =>
    show Except.ok (Json.isAbsent (p.resolve d)) = _
    cases p.resolve d with
    | none => rfl
    | some v => cases v <;> rfl
  | _ => cases hx

theorem result_listed (op : Operator) (items : List Operand) (v : Option Json) :
    (listed op items v).result = .ok (items.any (·.denotes (v.getD .null))) := by
  have hnull : items.contains .null = items.any (·.denotes .null) :=
    Operand.contains_eq_any_denotes rfl items
  have hnone : ∀ {w : Json}, (∀ x : Operand, x.denotes w = false) →
      false = items.any (·.denotes w) := by
    intro w hw
    simp [hw]
  cases v with
  | none => exact congrArg Except.ok hnull
  | some v =>
    cases v with
    | null => exact congrArg Except.ok hnull
    | string s => rfl
    | number n => rfl
    | bool b => exact congrArg Except.ok (hnone fun x => by cases x <;> rfl)
    | array vs => exact congrArg Except.ok (hnone fun x => by cases x <;> rfl)
    | object ms => exact congrArg Except.ok (hnone fun x => by cases x <;> rfl)

/-- A value looked up in a list of literals; one that is missing counts as null. -/
theorem decides_in_list (options : MatchOptions) (d : Json) (p : Path) (items : List Operand) :
    Decides options d (.path p) .isIn .notIn (.list items)
      (items.any (·.denotes ((p.resolve d).getD .null))) :=
  decides_membership fun op => result_listed op items (p.resolve d)

/-- A literal looked up in a list of literals. -/
theorem decides_scalar_in_list (options : MatchOptions) (d : Json) (hx : x.isScalar = true)
    (items : List Operand) :
    Decides options d x .isIn .notIn (.list items) (items.contains x) := by
  refine decides_membership fun op => ?_
  cases x with
  | path q => cases hx
  | list xs => cases hx
  | regex q => cases hx
  | _ => rfl

/-- A literal looked up in an array. -/
theorem decides_scalar_in_path (options : MatchOptions) (d : Json) (hx : x.isScalar = true)
    (q : Path) :
    Decides options d x .isIn .notIn (.path q) (memberOf x.denotes (q.resolve d)) := by
  refine decides_membership fun op => ?_
  cases x with
  | path q => cases hx
  | list xs => cases hx
  | regex q => cases hx
  | _ => rfl

/-! ### Lists -/

/-- What a path leads to is in a list of literals exactly if it is equal to one of them, and not in
the list exactly if it is equal to none.  Both have a verdict on every document. -/
theorem in_list_iff_exists_equal (options : MatchOptions) (d : Json) (p : Path)
    {items : List Operand} (h : ∀ x ∈ items, x.isScalar = true) :
    (∃ b, outcome options d (.path p) .isIn (.list items) = .ok b ∧
        (b = true ↔ ∃ x ∈ items, outcome options d (.path p) .equal x = .ok true)) ∧
      ∃ b, outcome options d (.path p) .notIn (.list items) = .ok b ∧
        (b = true ↔ ∀ x ∈ items, outcome options d (.path p) .notEqual x = .ok true) := by
  obtain ⟨hin, hnotIn⟩ := decides_in_list options d p items
  refine ⟨⟨_, hin, ?_⟩, _, hnotIn, ?_⟩
  · rw [List.any_eq_true]
    refine exists_congr fun x => and_congr_right fun hx => ?_
    rw [(decides_equal_literal options d p (h x hx)).1, Except.ok.injEq]
  · rw [Bool.not_eq_true', List.any_eq_false]
    refine forall₂_congr fun x hx => ?_
    rw [(decides_equal_literal options d p (h x hx)).2, Except.ok.injEq, Bool.not_eq_true,
      Bool.not_eq_true']

/-- In `{"a": 9.0}` what `@.a` leads to is in `['9', 9, null]`, since it is equal to one of them. -/
theorem in_list_iff_exists_equal_of_nine :
    let nine : JsonNumber := .double ⟨false, 0x4022000000000000, by decide⟩ (by decide)
    let d : Json := .object [("a", .number nine)]
    let p : Path := ⟨["a"]⟩
    let items : List Operand := [.string "9", .number (.ofInt 9), .null]
    (∀ x ∈ items, x.isScalar = true) ∧
      outcome .standard d (.path p) .isIn (.list items) = .ok true ∧
      ∃ x ∈ items, outcome .standard d (.path p) .equal x = .ok true := by
  intro nine d p items
  have hscalar : ∀ x ∈ items, x.isScalar = true := by decide
  have hin : outcome .standard d (.path p) .isIn (.list items) = .ok true := by decide +kernel
  obtain ⟨b, hb, hiff⟩ := (in_list_iff_exists_equal .standard d p hscalar).1
  obtain rfl : true = b := Except.ok.inj (hin.symm.trans hb)
  exact ⟨hscalar, hin, hiff.1 rfl⟩

/-! ### Any item of an array -/

/-- Whether a value that may be missing has an item that some literal of a list denotes.  A value
that is no array counts as its own only item. -/
def anyDenoted (items : List Operand) : Option Json → Bool
  | none => false
  | some (.array vs) => vs.any fun v => items.any (·.denotes v)
  | some v => items.any (·.denotes v)

theorem decides_anyOf_list (hextended : options.extendedOperators = true) (d : Json) (p : Path)
    (items : List Operand) :
    Decides options d (.path p) .anyOf .noneOf (.list items) (anyDenoted items (p.resolve d)) :=
  decides_listing hextended fun _ => rfl

/-- Some item of an array is denoted by some literal exactly if some literal denotes an item. -/
theorem anyDenoted_array_iff {vs : List Json} : anyDenoted items (some (.array vs)) = true ↔
    ∃ x ∈ items, memberOf x.denotes (some (.array vs)) = true := by
  simp only [anyDenoted, memberOf, List.any_eq_true]
  constructor
  · rintro ⟨v, hv, x, hx, h⟩
    exact ⟨x, hx, v, hv, h⟩
  · rintro ⟨x, hx, v, hv, h⟩
    exact ⟨v, hv, x, hx, h⟩

theorem anyDenoted_of_ne_array (h : ∀ vs, v ≠ .array vs) :
    anyDenoted items (some v) = items.any (·.denotes v) := by
  cases v with
  | array vs => exact absurd rfl (h vs)
  | _ => rfl

/-- `anyof` on an array asks whether one of the literals is in it, on any other value whether that
value is in the list, and is false on a missing one.  `noneof` denies it, and neither they nor the
memberships that they are compared with ever fail. -/
theorem anyOf_agrees_with_in (hextended : options.extendedOperators = true) (d : Json) (p : Path)
    {items : List Operand} (h : ∀ x ∈ items, x.isScalar = true) :
    (∀ vs, p.resolve d = some (.array vs) →
        (outcome options d (.path p) .anyOf (.list items) = .ok true ↔
          ∃ x ∈ items, outcome options d x .isIn (.path p) = .ok true)) ∧
      (∀ v, p.resolve d = some v → (∀ vs, v ≠ .array vs) →
        outcome options d (.path p) .anyOf (.list items) =
          outcome options d (.path p) .isIn (.list items)) ∧
      (p.resolve d = none → outcome options d (.path p) .anyOf (.list items) = .ok false) ∧
      (∃ b, outcome options d (.path p) .anyOf (.list items) = .ok b ∧
        outcome options d (.path p) .noneOf (.list items) = .ok (!b)) ∧
      (∃ b, outcome options d (.path p) .isIn (.list items) = .ok b) ∧
      ∀ x ∈ items, ∃ b, outcome options d x .isIn (.path p) = .ok b := by
  obtain ⟨hany, hnone⟩ := decides_anyOf_list hextended d p items
  obtain ⟨hin, -⟩ := decides_in_list options d p items
  have hliteral : ∀ x ∈ items,
      outcome options d x .isIn (.path p) = .ok (memberOf x.denotes (p.resolve d)) :=
    fun x hx => (decides_scalar_in_path options d (h x hx) p).1
  refine ⟨?_, ?_, ?_, ⟨_, hany, hnone⟩, ⟨_, hin⟩, fun x hx => ⟨_, hliteral x hx⟩⟩
  · intro vs hvs
    rw [hany, hvs, Except.ok.injEq, anyDenoted_array_iff]
    refine exists_congr fun x => and_congr_right fun hx => ?_
    rw [hliteral x hx, hvs, Except.ok.injEq]
  · intro v hv harray
    rw [hany, hin, hv, anyDenoted_of_ne_array harray, Option.getD_some]
  · intro hmissing
    rw [hany, hmissing]
    rfl

/-- In `{"a": ["x", 9.0]}` some item is in `[null, 9]`, since `9` is in `@.a`.  Null and a missing
value differ: `anyof` finds the one in the list and not the other. -/
theorem anyOf_agrees_with_in_of_nine :
    let nine : JsonNumber := .double ⟨false, 0x4022000000000000, by decide⟩ (by decide)
    let d : Json := .object [("a", .array [.string "x", .number nine]), ("n", .null)]
    let items : List Operand := [.null, .number (.ofInt 9)]
    MatchOptions.standard.extendedOperators = true ∧ (∀ x ∈ items, x.isScalar = true) ∧
      outcome .standard d (.path ⟨["a"]⟩) .anyOf (.list items) = .ok true ∧
      outcome .standard d (.path ⟨["n"]⟩) .anyOf (.list items) =
        outcome .standard d (.path ⟨["n"]⟩) .isIn (.list items) ∧
      outcome .standard d (.path ⟨["m"]⟩) .anyOf (.list items) = .ok false := by
  intro nine d items
  have hscalar : ∀ x ∈ items, x.isScalar = true := by decide
  have hmember : ∃ x ∈ items, outcome .standard d x .isIn (.path ⟨["a"]⟩) = .ok true :=
    ⟨.number (.ofInt 9), by simp [items], by decide +kernel⟩
  have hextended : MatchOptions.standard.extendedOperators = true := rfl
  have hagrees := fun p => anyOf_agrees_with_in hextended d p hscalar
  exact ⟨hextended, hscalar, ((hagrees ⟨["a"]⟩).1 _ rfl).2 hmember,
    (hagrees ⟨["n"]⟩).2.1 .null rfl (fun _ h => by cases h), (hagrees ⟨["m"]⟩).2.2.1 rfl⟩

/-! ### A path and the literal for what it leads to -/

/-- A missing or null value is equal to null, and any other value to what a literal denotes exactly
if the literal denotes it. -/
theorem equalValues_eq_denotes (h : x.denotes v = true) (w : Option Json) :
    equalValues w (some v) = x.denotes (w.getD .null) := by
  have hnull : v.isNull = x.denotes .null := by
    rw [← Operand.equiv_eq_denotes h]
    cases v <;> rfl
  cases w with
  | none => exact hnull
  | some w =>
    cases w with
    | null => exact hnull
    | _ => exact Operand.equiv_eq_denotes h _

/-- A value looked up in another one: it is an item of an array, or null is looked up in what is
missing or null. -/
theorem decides_path_in_path (options : MatchOptions) (hp : p.resolve d = some v)
    (h : x.denotes v = true) (q : Path) :
    Decides options d (.path p) .isIn .notIn (.path q)
      (v.isNull && Json.isAbsent (q.resolve d) || memberOf x.denotes (q.resolve d)) := by
  have hitem : (fun w : Json => w.equiv v) = x.denotes := funext (Operand.equiv_eq_denotes h)
  refine decides_membership fun op => ?_
  simp only [containedIn, hp, hitem]
  show (if v.isNull && Json.isAbsent (q.resolve d) then _ else _ : Evaluation Bool).result = _
  cases v.isNull && Json.isAbsent (q.resolve d) <;> rfl

theorem decides_equal_path (options : MatchOptions) (hp : p.resolve d = some v)
    (h : x.denotes v = true) (r : Path) :
    Decides options d (.path r) .equal .notEqual (.path p)
      (x.denotes ((r.resolve d).getD .null)) := by
  refine decides_equality fun op => ?_
  show Except.ok (equalValues (r.resolve d) (p.resolve d)) = _
  rw [hp, equalValues_eq_denotes h]

theorem memberOf_of_isAbsent {item : Json → Bool} {w : Option Json}
    (h : Json.isAbsent w = true) : memberOf item w = false := by
  cases w with
  | none => rfl
  | some w =>
    cases w with
    | null => rfl
    | _ => cases h

/-- Taking null to be in what is missing or null makes a difference there only. -/
theorem or_memberOf_eq_iff (item : Json → Bool) (v : Json) (w : Option Json) :
    (v.isNull && Json.isAbsent w || memberOf item w) = memberOf item w ↔
      ¬(v = .null ∧ Json.isAbsent w = true) := by
  cases hw : Json.isAbsent w with
  | false => simp
  | true =>
    rw [memberOf_of_isAbsent hw]
    cases v <;> simp [Json.isNull]

/-- A path may be replaced by a literal that denotes what it leads to: on the left of `in` and `nin`
before a list and before a path, unless null is looked up in what is missing or null, and on the
right of `==` and `!=`. -/
theorem path_replaced_by_literal {p : Path} {v : Json} {x : Operand} (hp : p.resolve d = some v)
    (h : x.denotes v = true) (options : MatchOptions) :
    (∀ items, ∀ op ∈ [Operator.isIn, .notIn],
        outcome options d (.path p) op (.list items) = outcome options d x op (.list items)) ∧
      (∀ q : Path, ∀ op ∈ [Operator.isIn, .notIn],
        outcome options d (.path p) op (.path q) = outcome options d x op (.path q) ↔
          ¬(v = .null ∧ Json.isAbsent (q.resolve d) = true)) ∧
      ∀ r : Path, ∀ op ∈ [Operator.equal, .notEqual],
        outcome options d (.path r) op (.path p) = outcome options d (.path r) op x := by
  have hx := Operand.isScalar_of_denotes h
  simp only [List.forall_mem_cons, List.not_mem_nil, false_implies, implies_true, and_true]
  refine ⟨fun items => ?_, fun q => ?_, fun r => ?_⟩
  · obtain ⟨hin, hnotIn⟩ := decides_in_list options d p items
    obtain ⟨hin', hnotIn'⟩ := decides_scalar_in_list options d hx items
    rw [hin, hnotIn, hin', hnotIn', hp, Option.getD_some, Operand.contains_eq_any_denotes h]
    exact ⟨rfl, rfl⟩
  · obtain ⟨hin, hnotIn⟩ := decides_path_in_path options hp h q
    obtain ⟨hin', hnotIn'⟩ := decides_scalar_in_path options d hx q
    have hsame := or_memberOf_eq_iff x.denotes v (q.resolve d)
    rw [hin, hnotIn, hin', hnotIn', Except.ok.injEq, Except.ok.injEq, Bool.not_inj_iff]
    exact ⟨hsame, hsame⟩
  · obtain ⟨hequal, hnotEqual⟩ := decides_equal_path options hp h r
    obtain ⟨hequal', hnotEqual'⟩ := decides_equal_literal options d r hx
    exact ⟨hequal.trans hequal'.symm, hnotEqual.trans hnotEqual'.symm⟩

/-- In `{"a": 9.0, "q": [null, 9]}` the path `@.a` may be replaced by the literal `9.00`.  The path
`@.n` to a null may be replaced by `null` before `@.q`, and not before the missing `@.m`. -/
theorem path_replaced_by_literal_of_nine :
    let nine : JsonNumber := .double ⟨false, 0x4022000000000000, by decide⟩ (by decide)
    let d : Json := .object
      [("a", .number nine), ("n", .null), ("q", .array [.null, .number (.integer 9)])]
    let x : Operand := .number ⟨900, 2⟩
    Path.resolve ⟨["a"]⟩ d = some (.number nine) ∧ x.denotes (.number nine) = true ∧
      outcome .standard d (.path ⟨["a"]⟩) .isIn (.path ⟨["q"]⟩) =
        outcome .standard d x .isIn (.path ⟨["q"]⟩) ∧
      outcome .standard d (.path ⟨["n"]⟩) .isIn (.path ⟨["q"]⟩) =
        outcome .standard d .null .isIn (.path ⟨["q"]⟩) ∧
      outcome .standard d (.path ⟨["n"]⟩) .isIn (.path ⟨["m"]⟩) ≠
        outcome .standard d .null .isIn (.path ⟨["m"]⟩) := by
  intro nine d x
  have hnine : Path.resolve ⟨["a"]⟩ d = some (.number nine) := rfl
  have hnull : Path.resolve ⟨["n"]⟩ d = some .null := rfl
  have hx : x.denotes (.number nine) = true := by decide +kernel
  have hin : Operator.isIn ∈ [Operator.isIn, .notIn] := by decide
  have hiff := fun q => (path_replaced_by_literal hnull (x := .null) rfl .standard).2.1 q _ hin
  refine ⟨hnine, hx, ?_, (hiff ⟨["q"]⟩).2 ?_, fun h => (hiff ⟨["m"]⟩).1 h ⟨rfl, rfl⟩⟩
  · refine ((path_replaced_by_literal hnine hx .standard).2.1 ⟨["q"]⟩ _ hin).2 ?_
    rintro ⟨h, -⟩
    cases h
  · rintro ⟨-, h⟩
    cases h

end Matching
end DocFilter
