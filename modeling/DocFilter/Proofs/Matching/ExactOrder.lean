import DocFilter.Proofs.Matching.Orderings
import DocFilter.Proofs.Number.Order

/-!
# Orderings and exact values

Equality compares numbers by their exact values, an ordering by their doubles.  Rounding keeps the
order, so what an ordering says is true of the exact values as far as it goes: a strict ordering of
two numbers, neither of them the negative zero, holds of their values.  But different values may
share a double, and then both `<=` and `>=` hold although `==` does not.  That is the only way in
which both bounds can hold without equality.
-/

namespace DocFilter
namespace Matching

variable {options : MatchOptions} {d : Json} {p : Path} {op : Operator} {x : Operand}
  {a b : Sortable}

/-! ### Strict orderings -/

/-- A number that an operand leads to or stands for has the double nearest to its value, unless it
is the negative zero. -/
theorem double_eq_nearest {u : Decimal} {y : Binary64} (h : x.sortable? d = some (.number u y))
    (hzero : ∀ q, x = .path q → Json.isNegativeZero (q.resolve d) = false) :
    y = .nearest u := by
  cases x with
  | path q =>
    obtain ⟨v, hv, hsortable⟩ := Option.bind_eq_some_iff.1 h
    rcases sortable?_cases hsortable with ⟨s, -, hs⟩ | ⟨n, rfl, hn⟩
    · cases hs
    · cases hn
      have hn := hzero q rfl
      rw [hv] at hn
      exact (JsonNumber.nearest_toDecimal_of_isNegativeZero_eq_false hn).symm
  | number value =>
    cases h
    rfl
  | _ => cases h

/-- If a strict ordering of two numbers holds, then it holds of their exact values, as long as no
path leads to the negative zero. -/
theorem value_lt_of_comparison {options : MatchOptions} {d : Json} {p : Path} {x : Operand}
    {u v : Decimal} {y z : Binary64} (hp : (Operand.path p).sortable? d = some (.number u y))
    (hx : x.sortable? d = some (.number v z))
    (hzero : ∀ q, q = p ∨ x = .path q → Json.isNegativeZero (q.resolve d) = false) :
    (comparison options d p .less x = .ok true → u.value < v.value) ∧
      (comparison options d p .greater x = .ok true → v.value < u.value) := by
  have hy : y = .nearest u := double_eq_nearest hp fun q hq => hzero q (.inl (by cases hq; rfl))
  have hz : z = .nearest v := double_eq_nearest hx fun q hq => hzero q (.inr hq)
  have hordered : ∀ op, op.isOrdering = true →
      comparison options d p op x = .ok (op.accepts (compare y z)) := fun op hop =>
    comparison_of_compare? hop hp hx rfl
  constructor
  · intro h
    rw [hordered .less rfl, Except.ok.injEq] at h
    have hkey := Binary64.isLT_compare_iff.1 h
    rw [hy, hz] at hkey
    exact Binary64.value_lt_of_key_lt hkey
  · intro h
    rw [hordered .greater rfl, Except.ok.injEq] at h
    have hkey := Binary64.isGT_compare_iff.1 h
    rw [hy, hz] at hkey
    exact Binary64.value_lt_of_key_lt hkey

/-- In `{"a": 9007199254740993}` the value of `@.a` is below `9007199254740993.5`, from which it is
told apart although neither of them is a double. -/
theorem value_lt_of_comparison_of_half :
    let d : Json := .object [("a", .number (.integer 9007199254740993))]
    let u : Decimal := .ofInt 9007199254740993
    let v : Decimal := ⟨90071992547409935, 1⟩
    (Operand.path ⟨["a"]⟩).sortable? d = some (.number u (.nearest u)) ∧
      (Operand.number v).sortable? d = some (.number v (.nearest v)) ∧
      (∀ q, q = ⟨["a"]⟩ ∨ Operand.number v = .path q →
        Json.isNegativeZero (q.resolve d) = false) ∧
      comparison .standard d ⟨["a"]⟩ .less (.number v) = .ok true ∧ u.value < v.value := by
  intro d u v
  have hp : (Operand.path ⟨["a"]⟩).sortable? d = some (.number u (.nearest u)) := by
    rw [Operand.sortable?_path rfl]
    exact Json.sortable?_number (.integer 9007199254740993)
  have hx : (Operand.number v).sortable? d = some (.number v (.nearest v)) := rfl
  have hzero : ∀ q, q = ⟨["a"]⟩ ∨ Operand.number v = .path q →
      Json.isNegativeZero (q.resolve d) = false := by
    rintro q (rfl | hq)
    · decide +kernel
    · cases hq
  have hless : comparison .standard d ⟨["a"]⟩ .less (.number v) = .ok true := by decide +kernel
  exact ⟨hp, hx, hzero, hless, (value_lt_of_comparison hp hx hzero).1 hless⟩

/-! ### Both bounds -/

/-- Two values are level in the order if they are one string, or numbers with one double. -/
theorem compare?_eq_some_eq_iff : a.compare? b = some .eq ↔
    (∃ s, a = .string s ∧ b = .string s) ∨ ∃ u v y, a = .number u y ∧ b = .number v y := by
  constructor
  · intro h
    cases a with
    | string s =>
      cases b with
      | string t =>
        obtain rfl : s = t := Std.LawfulEqCmp.eq_of_compare (Option.some.inj h)
        exact .inl ⟨s, rfl, rfl⟩
      | number v z => cases h
    | number u y =>
      cases b with
      | string t => cases h
      | number v z =>
        have hkey : y.key = z.key := Int.compare_eq_eq.1 (Option.some.inj h)
        obtain rfl := Binary64.key_injective hkey
        exact .inr ⟨u, v, y, rfl, rfl⟩
  · rintro (⟨s, rfl, rfl⟩ | ⟨u, v, y, rfl, rfl⟩)
    · exact congrArg some Std.ReflCmp.compare_self
    · exact congrArg some (Int.compare_eq_eq.2 rfl)

/-- An ordering holds only of two values that are ordered as it says. -/
theorem exists_compare?_of_comparison (hx : x.isOrderable = true) (hop : op.isOrdering = true)
    (h : comparison options d p op x = .ok true) :
    ∃ a b o, (Operand.path p).sortable? d = some a ∧ x.sortable? d = some b ∧
      a.compare? b = some o ∧ op.accepts o = true := by
  have hside : ¬LacksSide d p x := by
    intro hside
    rw [comparison_of_lacksSide hop hside] at h
    cases h
  have hclash : ¬Clashes d p x := by
    intro hclash
    obtain ⟨left, right, hfault⟩ := comparison_of_clashes options hclash
    rw [hfault op hop] at h
    cases h
  obtain ⟨a, b, o, ha, hb, ho⟩ := exists_compare? hx hside hclash
  rw [comparison_of_compare? hop ha hb ho, Except.ok.injEq] at h
  exact ⟨a, b, o, ha, hb, ho, h⟩

theorem isOrderable_of_sortable? (h : x.sortable? d = some b) : x.isOrderable = true := by
  cases x with
  | path | string | number => rfl
  | _ => cases h

/-- Both bounds hold exactly of two values that are level in the order. -/
theorem both_bounds_iff (ha : (Operand.path p).sortable? d = some a) (hb : x.sortable? d = some b) :
    comparison options d p .lessEqual x = .ok true ∧
      comparison options d p .greaterEqual x = .ok true ↔ a.compare? b = some .eq := by
  constructor
  · rintro ⟨hle, hge⟩
    have hx := isOrderable_of_sortable? hb
    obtain ⟨a', b', o, ha', hb', ho, hnotGT⟩ := exists_compare?_of_comparison hx rfl hle
    obtain rfl := Option.some.inj (ha.symm.trans ha')
    obtain rfl := Option.some.inj (hb.symm.trans hb')
    rw [comparison_of_compare? rfl ha hb ho, Except.ok.injEq] at hge
    have hlevel : o = .eq := by
      cases o with
      | eq => rfl
      | lt => cases hge
      | gt => cases hnotGT
    rw [ho, hlevel]
  · intro h
    exact ⟨comparison_of_compare? rfl ha hb h, comparison_of_compare? rfl ha hb h⟩

/-- Values that have an order are equal if they are of one type and have one exact value. -/
theorem equals_of_sortable? (ha : (Operand.path p).sortable? d = some a)
    (hb : x.sortable? d = some b) : equals d op (.path p) x = .ok (a.equal b) := by
  obtain ⟨l, hl, hla⟩ := Option.bind_eq_some_iff.1 ha
  simp only [equals, leftPath, bind, Except.bind, hl]
  cases x with
  | path q =>
    obtain ⟨r, hr, hrb⟩ := Option.bind_eq_some_iff.1 hb
    show Except.ok (equalValues (some l) (q.resolve d)) = .ok (a.equal b)
    rw [hr]
    rcases sortable?_cases hla with ⟨s, rfl, rfl⟩ | ⟨m, rfl, rfl⟩ <;>
      rcases sortable?_cases hrb with ⟨t, rfl, rfl⟩ | ⟨n, rfl, rfl⟩ <;> rfl
  | string t =>
    obtain rfl := Option.some.inj hb
    rcases sortable?_cases hla with ⟨s, rfl, rfl⟩ | ⟨m, rfl, rfl⟩
    · exact congrArg Except.ok (Bool.beq_comm (a := t) (b := s))
    · rfl
  | number value =>
    obtain rfl := Option.some.inj hb
    rcases sortable?_cases hla with ⟨s, rfl, rfl⟩ | ⟨m, rfl, rfl⟩ <;> rfl
  | _ => cases hb

theorem comparison_equal_of_sortable? (ha : (Operand.path p).sortable? d = some a)
    (hb : x.sortable? d = some b) :
    comparison options d p .equal x = .ok (a.equal b) := by
  rw [comparison_equal, equals_of_sortable? ha hb]
  rfl

/-- Of a string or number that a path leads to and another one, both bounds hold without equality
exactly if they are numbers with one double and different exact values. -/
theorem bounds_without_equality_iff {options : MatchOptions} {d : Json} {p : Path} {x : Operand}
    {a b : Sortable} (ha : (Operand.path p).sortable? d = some a) (hb : x.sortable? d = some b) :
    (comparison options d p .lessEqual x = .ok true ∧
        comparison options d p .greaterEqual x = .ok true ∧
        comparison options d p .equal x ≠ .ok true) ↔
      ∃ u v y, a = .number u y ∧ b = .number v y ∧ u.value ≠ v.value := by
  rw [← and_assoc, both_bounds_iff ha hb, compare?_eq_some_eq_iff,
    comparison_equal_of_sortable? ha hb, ne_eq, Except.ok.injEq]
  constructor
  · rintro ⟨⟨s, rfl, rfl⟩ | ⟨u, v, y, rfl, rfl⟩, hne⟩
    · exact absurd (beq_self_eq_true s) hne
    · refine ⟨u, v, y, rfl, rfl, ?_⟩
      rwa [ne_eq, ← Decimal.beq_iff_value_eq]
  · rintro ⟨u, v, y, rfl, rfl, hne⟩
    refine ⟨.inr ⟨u, v, y, rfl, rfl⟩, ?_⟩
    rwa [ne_eq, ← Decimal.beq_iff_value_eq] at hne

/-- In `{"a": 0.1}` the value of `@.a` is bounded from both sides by a literal that is written with
more digits of the same double. -/
theorem bounds_without_equality_of_tenth :
    let tenth : JsonNumber := .double ⟨false, 0x3FB999999999999A, by decide⟩ (by decide)
    let d : Json := .object [("a", .number tenth)]
    let digits : Decimal := ⟨1000000000000000055511151231257827, 34⟩
    (Operand.path ⟨["a"]⟩).sortable? d = some (.number tenth.toDecimal tenth.toBinary64) ∧
      (Operand.number digits).sortable? d = some (.number digits tenth.toBinary64) ∧
      comparison .standard d ⟨["a"]⟩ .lessEqual (.number digits) = .ok true ∧
      comparison .standard d ⟨["a"]⟩ .greaterEqual (.number digits) = .ok true ∧
      comparison .standard d ⟨["a"]⟩ .equal (.number digits) ≠ .ok true := by
  intro tenth d digits
  have ha : (Operand.path ⟨["a"]⟩).sortable? d =
      some (.number tenth.toDecimal tenth.toBinary64) := by
    rw [Operand.sortable?_path rfl, Json.sortable?_number]
  have hb : (Operand.number digits).sortable? d = some (.number digits tenth.toBinary64) := by
    have hdouble : Binary64.nearest digits = tenth.toBinary64 := by decide +kernel
    rw [Operand.sortable?, hdouble]
  have hne : tenth.toDecimal.value ≠ digits.value := by
    rw [ne_eq, ← Decimal.beq_iff_value_eq]
    decide +kernel
  exact ⟨ha, hb, (bounds_without_equality_iff ha hb).2 ⟨_, _, _, rfl, rfl, hne⟩⟩

/-- In `{"a": 9007199254740993}` the value of `@.a` is bounded by `9007199254740992` from both sides
without being equal to it: both integers have the double `2 ^ 53`. -/
theorem bounds_without_equality_of_odd_integer :
    let d : Json := .object [("a", .number (.integer 9007199254740993))]
    let x : Operand := .number (.ofInt 9007199254740992)
    comparison .standard d ⟨["a"]⟩ .lessEqual x = .ok true ∧
      comparison .standard d ⟨["a"]⟩ .greaterEqual x = .ok true ∧
      comparison .standard d ⟨["a"]⟩ .equal x = .ok false := by
  intro d x
  exact ⟨by rfl, by rfl, by rfl⟩

end Matching
end DocFilter
