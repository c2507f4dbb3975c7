import DocFilter.Proofs.Json.NumberText
import DocFilter.Proofs.Matching.EqualDocuments
import DocFilter.Proofs.Matching.Locality

/-!
# What the four orderings say together

The orderings `<`, `>`, `<=` and `>=` ask one question, how the two sides are ordered, and the
answer has one of three forms.  If a side is missing, there is nothing to order and all four are
false, also the two that are defined by what is not the case.  If two values are there that have no
order, all four fail alike.  Otherwise both sides are strings or both are numbers, and each of `<=`
and `>=` denies one of the strict orderings, of which at most one holds.
-/

namespace DocFilter

/-! ### Values with an order -/

/-- A value that has a place in an order: a string, or a number, of which equality sees the exact
value and an ordering the nearest double. -/
inductive Sortable where
  | string (s : String)
  | number (value : Decimal) (double : Binary64)

namespace Sortable

/-- How two values of one type are ordered. -/
def compare? : Sortable → Sortable → Option Ordering
  | string s, string t => some (compare s t)
  | number _ x, number _ y => some (compare x y)
  | _, _ => none

/-- Whether two values are of one type and equal. -/
def equal : Sortable → Sortable → Bool
  | string s, string t => s == t
  | number u _, number v _ => u == v
  | _, _ => false

end Sortable

/-- The value as one that has an order, the exact value of a number being what its text denotes. -/
def Json.sortable? : Json → Option Sortable
  | .string s => some (.string s)
  | .number n => (Decimal.ofText? n.text).map (.number · n.toBinary64)
  | _ => none

@[simp] theorem Json.sortable?_number (n : JsonNumber) :
    (Json.number n).sortable? = some (.number n.toDecimal n.toBinary64) := by
  rw [sortable?, n.ofText?_text, Option.map_some]

/-- What an operand leads to or stands for in a document, as a value that has an order. -/
def Operand.sortable? (d : Json) : Operand → Option Sortable
  | .path q => (q.resolve d).bind Json.sortable?
  | .string s => some (.string s)
  | .number value => some (.number value (.nearest value))
  | _ => none

theorem Operand.sortable?_path {d v : Json} {q : Path} (h : q.resolve d = some v) :
    (Operand.path q).sortable? d = v.sortable? := by
  rw [sortable?, h, Option.bind_some]

/-- Whether the operand is a path, a string or a number. -/
def Operand.isOrderable : Operand → Bool
  | .path _ | .string _ | .number _ => true
  | _ => false

/-- What an ordering says of two sides in the given order. -/
def Operator.accepts : Operator → Ordering → Bool
  | .less, o => o.isLT
  | .greater, o => o.isGT
  | .lessEqual, o => !o.isGT
  | .greaterEqual, o => !o.isLT
  | _, _ => false

namespace Matching

/-- The outcome of the formula that only compares what a path leads to with an operand. -/
def comparison (options : MatchOptions) (d : Json) (p : Path) (op : Operator) (x : Operand) :
    Except MatchFault Bool :=
  (evaluate options d [.test none false (.compare (.path p) op x)]).result

variable {options : MatchOptions} {d : Json} {p : Path} {op : Operator} {x : Operand}
  {a b : Sortable}

/-! ### One comparison -/

theorem comparison_eq_counted : comparison options d p op x =
    counted (verdict options d (.compare (.path p) op x)).result :=
  result_evaluate_alone _

theorem comparison_of_isOrdering (hop : op.isOrdering = true) :
    comparison options d p op x = counted ((order d op (.path p) x).map op.accepts) := by
  rw [comparison_eq_counted]
  cases op with
  | less | greater | lessEqual | greaterEqual => rfl
  | _ => cases hop

theorem comparison_equal :
    comparison options d p .equal x = counted (equals d .equal (.path p) x) := comparison_eq_counted

/-! ### Nothing to order -/

/-- Whether a side of the comparison is missing: a path leads to nothing or to null, or the value on
the left is not of the type of the literal on the right. -/
def LacksSide (d : Json) (p : Path) : Operand → Prop
  | .path q => Json.isAbsent (p.resolve d) = true ∨ Json.isAbsent (q.resolve d) = true
  | .string _ => ¬∃ s, p.resolve d = some (.string s)
  | .number _ => ¬∃ n, p.resolve d = some (.number n)
  | _ => False

/-- An ordering of two paths counts for false if one of them leads to nothing or to null. -/
theorem counted_order_of_absent_path {q : Path} (f : Ordering → Bool)
    (h : Json.isAbsent (p.resolve d) = true ∨ Json.isAbsent (q.resolve d) = true) :
    counted ((order d op (.path p) (.path q)).map f) = .ok false := by
  rw [counted_order_path]
  rcases h with h | h
  · rcases Json.isAbsent_iff.1 h with hl | hl
    · rw [hl]
    · rw [hl]
      cases q.resolve d <;> rfl
  · rcases Json.isAbsent_iff.1 h with hr | hr
    · rw [hr]
      cases p.resolve d <;> rfl
    · rw [hr]
      cases p.resolve d with
      | none => rfl
      | some l => exact if_pos (Bool.or_true l.isNull)

theorem comparison_of_lacksSide (hop : op.isOrdering = true) (h : LacksSide d p x) :
    comparison options d p op x = .ok false := by
  rw [comparison_of_isOrdering hop]
  cases x with
  | path q => exact counted_order_of_absent_path op.accepts h
  | string t =>
    simp only [order, leftPath, bind, Except.bind]
    split
    · next s hs => exact absurd ⟨s, hs⟩ h
    · rfl
  | number value =>
    simp only [order, leftPath, bind, Except.bind]
    split
    · next n hn => exact absurd ⟨n, hn⟩ h
    · rfl
  | _ => cases h

/-! ### Values without an order -/

/-- Whether two values are of one type that has an order. -/
inductive SameOrderedType : Json → Json → Prop
  | string (s t : String) : SameOrderedType (.string s) (.string t)
  | number (m n : JsonNumber) : SameOrderedType (.number m) (.number n)

/-- Whether two paths lead to values that are both there and have no order. -/
def Clashes (d : Json) (p : Path) : Operand → Prop
  | .path q => ∃ l r, p.resolve d = some l ∧ q.resolve d = some r ∧ l.isNull = false ∧
      r.isNull = false ∧ ¬SameOrderedType l r
  | _ => False

theorem orderValues_of_not_sameOrderedType {l r : Json} (h : ¬SameOrderedType l r) :
    orderValues l r = .error (.incomparable l.typeName r.typeName) := by
  unfold orderValues
  split
  · next s t => exact absurd (.string s t) h
  · next m n => exact absurd (.number m n) h
  · rfl

theorem comparison_of_clashes (options : MatchOptions) (h : Clashes d p x) :
    ∃ left right, ∀ op, op.isOrdering = true →
      comparison options d p op x = .error (.incomparable left right) := by
  cases x with
  | path q =>
    obtain ⟨l, r, hl, hr, hl', hr', htypes⟩ := h
    refine ⟨l.typeName, r.typeName, fun op hop => ?_⟩
    rw [comparison_of_isOrdering hop, counted_order_path, hl, hr]
    simp only [hl', hr', orderValues_of_not_sameOrderedType htypes]
    rfl
  | _ => cases h

/-! ### Values with an order -/

theorem sortable?_cases {v : Json} (h : v.sortable? = some a) :
    (∃ s, v = .string s ∧ a = .string s) ∨
      ∃ n, v = .number n ∧ a = .number n.toDecimal n.toBinary64 := by
  cases v with
  | string s => exact .inl ⟨s, rfl, (Option.some.inj h).symm⟩
  | number n =>
    rw [Json.sortable?_number] at h
    exact .inr ⟨n, rfl, (Option.some.inj h).symm⟩
  | _ => cases h

theorem orderValues_of_sortable? {l r : Json} (ha : l.sortable? = some a)
    (hb : r.sortable? = some b) {o : Ordering} (h : a.compare? b = some o) : orderValues l r = .ok o := by
  rcases sortable?_cases ha with ⟨s, rfl, rfl⟩ | ⟨m, rfl, rfl⟩
  · rcases sortable?_cases hb with ⟨t, rfl, rfl⟩ | ⟨n, rfl, rfl⟩
    · exact congrArg Except.ok (Option.some.inj h)
    · cases h
  · rcases sortable?_cases hb with ⟨t, rfl, rfl⟩ | ⟨n, rfl, rfl⟩
    · cases h
    · exact congrArg Except.ok (Option.some.inj h)

theorem isNull_of_sortable? {v : Json} (h : v.sortable? = some a) : v.isNull = false := by
  rcases sortable?_cases h with ⟨s, rfl, -⟩ | ⟨n, rfl, -⟩ <;> rfl

/-- An ordering of two values of one type says what their order says. -/
theorem comparison_of_compare? (hop : op.isOrdering = true)
    (ha : (Operand.path p).sortable? d = some a) (hb : x.sortable? d = some b) {o : Ordering}
    (h : a.compare? b = some o) : comparison options d p op x = .ok (op.accepts o) := by
  rw [comparison_of_isOrdering hop]
  obtain ⟨l, hl, hla⟩ := Option.bind_eq_some_iff.1 ha
  cases x with
  | path q =>
    obtain ⟨r, hr, hrb⟩ := Option.bind_eq_some_iff.1 hb
    rw [counted_order_path, hl, hr]
    simp only [isNull_of_sortable? hla, isNull_of_sortable? hrb,
      orderValues_of_sortable? hla hrb h]
    rfl
  | string t =>
    obtain rfl := Option.some.inj hb
    rcases sortable?_cases hla with ⟨s, rfl, rfl⟩ | ⟨n, rfl, rfl⟩
    · obtain rfl := Option.some.inj h
      simp only [order, leftPath, bind, Except.bind, hl]
      rfl
    · cases h
  | number value =>
    obtain rfl := Option.some.inj hb
    rcases sortable?_cases hla with ⟨s, rfl, rfl⟩ | ⟨n, rfl, rfl⟩
    · cases h
    · obtain rfl := Option.some.inj h
      simp only [order, leftPath, bind, Except.bind, hl]
      rfl
  | _ => cases hb

/-! ### The three forms of the answer -/

theorem not_lacksSide_of_clashes (h : Clashes d p x) : ¬LacksSide d p x := by
  cases x with
  | path q =>
    obtain ⟨l, r, hl, hr, hl', hr', -⟩ := h
    rintro (habsent | habsent)
    · rw [hl, show Json.isAbsent (some l) = l.isNull from rfl, hl'] at habsent
      cases habsent
    · rw [hr, show Json.isAbsent (some r) = r.isNull from rfl, hr'] at habsent
      cases habsent
  | _ => cases h

theorem exists_compare?_of_sameOrderedType {l r : Json} (h : SameOrderedType l r) :
    ∃ a b o, l.sortable? = some a ∧ r.sortable? = some b ∧ a.compare? b = some o := by
  cases h with
  | string s t => exact ⟨_, _, _, rfl, rfl, rfl⟩
  | number m n => exact ⟨_, _, _, Json.sortable?_number m, Json.sortable?_number n, rfl⟩

/-- What neither lacks a side nor clashes is ordered. -/
theorem exists_compare? (hx : x.isOrderable = true) (hside : ¬LacksSide d p x)
    (hclash : ¬Clashes d p x) : ∃ a b o, (Operand.path p).sortable? d = some a ∧
      x.sortable? d = some b ∧ a.compare? b = some o := by
  cases x with
  | path q =>
    obtain ⟨hl, hr⟩ := not_or.1 hside
    cases hp : p.resolve d with
    | none => exact absurd (by rw [hp]; rfl) hl
    | some l =>
      cases hq : q.resolve d with
      | none => exact absurd (by rw [hq]; rfl) hr
      | some r =>
        rw [hp, Bool.not_eq_true] at hl
        rw [hq, Bool.not_eq_true] at hr
        have htypes : SameOrderedType l r := by
          by_contra htypes
          exact hclash ⟨l, r, hp, hq, hl, hr, htypes⟩
        obtain ⟨a, b, o, ha, hb, ho⟩ := exists_compare?_of_sameOrderedType htypes
        rw [Operand.sortable?_path hp, Operand.sortable?_path hq]
        exact ⟨a, b, o, ha, hb, ho⟩
  | string t =>
    obtain ⟨s, hs⟩ := not_not.1 hside
    exact ⟨.string s, .string t, compare s t, Operand.sortable?_path hs, rfl, rfl⟩
  | number value =>
    obtain ⟨n, hn⟩ := not_not.1 hside
    refine ⟨.number n.toDecimal n.toBinary64, .number value (.nearest value), _, ?_, rfl, rfl⟩
    rw [Operand.sortable?_path hn, Json.sortable?_number]
  | _ => cases hx

section Forms

variable (outcome : Operator → Except MatchFault Bool)

/-- All four orderings are false. -/
def AllFalse : Prop := ∀ op, op.isOrdering = true → outcome op = .ok false

/-- All four orderings fail, since two types of values have no order between them. -/
def AllIncomparable : Prop :=
  ∃ left right, ∀ op, op.isOrdering = true → outcome op = .error (.incomparable left right)

/-- All four orderings have a verdict, `<=` the opposite of `>` and `>=` that of `<`, and the strict
ones are not both true. -/
def Complementary : Prop :=
  ∃ less greater, outcome .less = .ok less ∧ outcome .greater = .ok greater ∧
    outcome .lessEqual = .ok (!greater) ∧ outcome .greaterEqual = .ok (!less) ∧
    (less && greater) = false

variable {outcome}

theorem AllFalse.not_allIncomparable (h : AllFalse outcome) : ¬AllIncomparable outcome := by
  rintro ⟨left, right, hfault⟩
  have := (h .less rfl).symm.trans (hfault .less rfl)
  cases this

theorem Complementary.not_allIncomparable (h : Complementary outcome) :
    ¬AllIncomparable outcome := by
  obtain ⟨less, greater, hless, -⟩ := h
  rintro ⟨left, right, hfault⟩
  have := hless.symm.trans (hfault .less rfl)
  cases this

/-- Were all four false, then `>=` could not deny `<`. -/
theorem Complementary.not_allFalse (h : Complementary outcome) : ¬AllFalse outcome := by
  obtain ⟨less, greater, hless, -, -, hgreaterEqual, -⟩ := h
  intro hfalse
  rw [hfalse .less rfl, Except.ok.injEq] at hless
  rw [hfalse .greaterEqual rfl, Except.ok.injEq, ← hless] at hgreaterEqual
  cases hgreaterEqual

theorem complementary_of_accepts {o : Ordering}
    (h : ∀ op, op.isOrdering = true → outcome op = .ok (op.accepts o)) : Complementary outcome := by
  refine ⟨o.isLT, o.isGT, h .less rfl, h .greater rfl, h .lessEqual rfl, h .greaterEqual rfl, ?_⟩
  cases o <;> rfl

end Forms

/-- The four orderings of a path and a path, a string or a number are all false exactly if a side is
missing, and all fail with one fault exactly if two values that are there have no order.  Otherwise
all have a verdict, each of `<=` and `>=` is the opposite of a strict ordering, and the strict ones
are not both true.  No two of the three forms go together. -/
theorem orderings_agree (options : MatchOptions) (d : Json) (p : Path) {x : Operand}
    (hx : x.isOrderable = true) :
    let outcome := fun op => comparison options d p op x
    (AllFalse outcome ↔ LacksSide d p x) ∧ (AllIncomparable outcome ↔ Clashes d p x) ∧
      (Complementary outcome ↔ ¬LacksSide d p x ∧ ¬Clashes d p x) ∧
      ¬(LacksSide d p x ∧ Clashes d p x) := by
  intro outcome
  have hside : LacksSide d p x → AllFalse outcome := fun h op hop =>
    comparison_of_lacksSide hop h
  have hclash : Clashes d p x → AllIncomparable outcome := comparison_of_clashes options
  have hordered : ¬LacksSide d p x → ¬Clashes d p x → Complementary outcome := by
    intro hs hc
    obtain ⟨a, b, o, ha, hb, ho⟩ := exists_compare? hx hs hc
    exact complementary_of_accepts fun op hop => comparison_of_compare? hop ha hb ho
  refine ⟨⟨?_, hside⟩, ⟨?_, hclash⟩, ⟨?_, ?_⟩, ?_⟩
  · intro hfalse
    by_contra hs
    by_cases hc : Clashes d p x
    · exact hfalse.not_allIncomparable (hclash hc)
    · exact (hordered hs hc).not_allFalse hfalse
  · intro hfault
    by_contra hc
    by_cases hs : LacksSide d p x
    · exact (hside hs).not_allIncomparable hfault
    · exact (hordered hs hc).not_allIncomparable hfault
  · intro h
    exact ⟨fun hs => h.not_allFalse (hside hs), fun hc => h.not_allIncomparable (hclash hc)⟩
  · rintro ⟨hs, hc⟩
    exact hordered hs hc
  · rintro ⟨hs, hc⟩
    exact not_lacksSide_of_clashes hc hs

/-- In `{"n": 5, "s": "text"}` nothing orders `@.s` against `@.n`, whatever the ordering. -/
theorem orderings_agree_of_text_and_number :
    let d : Json := .object [("n", .number (.integer 5)), ("s", .string "text")]
    (Operand.path ⟨["n"]⟩).isOrderable = true ∧
      AllIncomparable fun op => comparison .standard d ⟨["s"]⟩ op (.path ⟨["n"]⟩) := by
  intro d
  have hx : (Operand.path ⟨["n"]⟩).isOrderable = true := rfl
  have hclash : Clashes d ⟨["s"]⟩ (.path ⟨["n"]⟩) := by
    refine ⟨.string "text", .number (.integer 5), rfl, rfl, rfl, rfl, ?_⟩
    intro htypes
    cases htypes
  exact ⟨hx, (orderings_agree .standard d ⟨["s"]⟩ hx).2.1.2 hclash⟩

end Matching
end DocFilter
