import DocFilter.Proofs.Json.Equality
import DocFilter.Proofs.Matching.Predicates
import DocFilter.Proofs.Number.Shortest

/-!
# Equal documents and what formulas make of them

Equality of documents compares the exact values of numbers, and so do the operators, except for
`=~` and the orderings.  A pattern sees the text of a number.  An ordering compares doubles, in an
order that puts the negative zero before the positive one, although the two are equal.  Leaving
these cases out, equal documents satisfy a formula alike; and where they differ in the sign of a
zero, an ordering tells them apart.  No object of a document may have a key twice, which holds of
every document that is read (`Json.distinctKeys_of_ofText?`).
-/

namespace DocFilter

/-! ### Zeros -/

namespace Json

/-- Whether the value is the number zero, of either sign. -/
def isZero : Option Json → Bool
  | some (.number n) => n.toBinary64.rank == 0
  | _ => false

/-- Whether the value is the zero with a minus. -/
def isNegativeZero : Option Json → Bool
  | some (.number n) => n.toBinary64.isNegativeZero
  | _ => false

end Json

/-- Whether the operand stands for the number zero, or leads to it. -/
def Operand.isZero (document : Json) : Operand → Bool
  | .path p => Json.isZero (p.resolve document)
  | .number d => (Binary64.nearest d).rank == 0
  | _ => false

/-- Whether the predicate is an ordering of two zeros. -/
def Predicate.OrdersZeros (document : Json) (p : Predicate) : Prop :=
  (∃ op ∈ p.operator, op.isOrdering = true) ∧ p.left.isZero document = true ∧
    ∃ right ∈ p.right, right.isZero document = true

namespace Matching

open Json

variable {options : MatchOptions} {d d' : Json} {left right : Operand} {op : Operator}
  {v v' w w' : Json} {l l' r r' : Option Json}

/-! ### Equal values -/

theorem isTruthy_eq_of_alike (h : Option.Rel Alike l l') : isTruthy l = isTruthy l' := by
  cases h with
  | none => rfl
  | some h => cases h.shape <;> rfl

theorem isAbsent_eq_of_alike (h : Option.Rel Alike l l') : isAbsent l = isAbsent l' := by
  cases h with
  | none => rfl
  | some h => exact h.isNull_eq

theorem denotes_eq_of_alike (x : Operand) (h : Alike v v') : x.denotes v = x.denotes v' := by
  cases h.shape with
  | number hvalue =>
    cases x with
    | number d => exact BEq.congr_left hvalue
    | _ => rfl
  | array => cases x <;> rfl
  | object => cases x <;> rfl
  | _ => rfl

theorem any_denotes_eq_of_alike (items : List Operand) (h : Alike v v') :
    items.any (·.denotes v) = items.any (·.denotes v') := by
  simp only [denotes_eq_of_alike _ h]

theorem equalValues_eq_of_alike (hl : Option.Rel Alike l l') (hr : Option.Rel Alike r r') :
    equalValues l r = equalValues l' r' := by
  cases hl with
  | none => exact isAbsent_eq_of_alike hr
  | some hl =>
    cases hr with
    | none => exact hl.isNull_eq
    | some hr => simp only [equalValues, hl.isNull_eq, hr.isNull_eq, hl.equiv_congr hr]

theorem memberOf_eq_of_alike {item item' : Json → Bool} (h : Option.Rel Alike r r')
    (hitem : ∀ {v v'}, Alike v v' → item v = item' v') : memberOf item r = memberOf item' r' := by
  cases h with
  | none => rfl
  | some h =>
    cases h.shape with
    | array hitems => exact any_eq_of_forall₂ hitems hitem
    | _ => rfl

theorem result_listed_eq_of_alike (items : List Operand) (h : Option.Rel Alike l l') :
    (listed op items l).result = (listed op items l').result := by
  cases h with
  | none => rfl
  | some h =>
    have hany := any_denotes_eq_of_alike items h
    cases h.shape with
    | number => exact congrArg Except.ok hany
    | _ => rfl

/-! ### Order -/

theorem orderValues_eq_of_alike (hv : Alike v v') (hw : Alike w w')
    (hzero : isZero (some v) = true → isZero (some w) = true →
      isNegativeZero (some v) = isNegativeZero (some v') ∧
        isNegativeZero (some w) = isNegativeZero (some w')) :
    orderValues v w = orderValues v' w' := by
  cases hv.shape with
  | number hm =>
    cases hw.shape with
    | number hn =>
      refine congrArg Except.ok (Binary64.compare_eq_of_withoutZeroSign_eq
        (JsonNumber.withoutZeroSign_congr hm) (JsonNumber.withoutZeroSign_congr hn) ?_)
      intro hmzero hnzero
      exact hzero (beq_iff_eq.2 hmzero) (beq_iff_eq.2 hnzero)
    | _ => rfl
  | _ => cases hw.shape <;> rfl

/-- What an ordering of two paths counts for. -/
theorem counted_order_path (p q : Path) (f : Ordering → Bool) :
    counted ((order d op (.path p) (.path q)).map f) =
      match p.resolve d, q.resolve d with
      | some v, some w =>
        if v.isNull || w.isNull then .ok false else counted ((orderValues v w).map f)
      | _, _ => .ok false := by
  simp only [order, leftPath, bind, Except.bind]
  -- A null on either side is dropped, and the comparison then fails like one of a missing value.
  cases p.resolve d with
  | none => rfl
  | some v =>
    cases q.resolve d with
    | none => cases hv : v.isNull <;> simp only [Option.filter_some, hv] <;> rfl
    | some w =>
      cases hv : v.isNull <;> cases hw : w.isNull <;> simp only [Option.filter_some, hv, hw] <;> rfl

theorem counted_order_path_eq_of_alike (h : Alike d d') {p q : Path} (f : Ordering → Bool)
    (hzero : isZero (p.resolve d) = true → isZero (q.resolve d) = true →
      isNegativeZero (p.resolve d) = isNegativeZero (p.resolve d') ∧
        isNegativeZero (q.resolve d) = isNegativeZero (q.resolve d')) :
    counted ((order d op (.path p) (.path q)).map f) =
      counted ((order d' op (.path p) (.path q)).map f) := by
  rw [counted_order_path, counted_order_path]
  rcases h.resolve_cases p with ⟨hp, hp'⟩ | ⟨v, v', hp, hp', hv⟩
  · rw [hp, hp']
  · rcases h.resolve_cases q with ⟨hq, hq'⟩ | ⟨w, w', hq, hq', hw⟩
    · rw [hp, hp', hq, hq']
    · rw [hp, hp', hq, hq'] at hzero ⊢
      simp only [hv.isNull_eq, hw.isNull_eq, orderValues_eq_of_alike hv hw hzero]

theorem counted_order_string_eq_of_alike (h : Alike d d') {p : Path} (t : String)
    (f : Ordering → Bool) : counted ((order d op (.path p) (.string t)).map f) =
      counted ((order d' op (.path p) (.string t)).map f) := by
  simp only [order, leftPath, bind, Except.bind]
  rcases h.resolve_cases p with ⟨hp, hp'⟩ | ⟨v, v', hp, hp', hv⟩
  · rw [hp, hp']
  · rw [hp, hp']
    cases hv.shape <;> rfl

theorem counted_order_number_eq_of_alike (h : Alike d d') {p : Path} (x : Decimal)
    (f : Ordering → Bool)
    (hzero : isZero (p.resolve d) = true → (Binary64.nearest x).rank = 0 →
      isNegativeZero (p.resolve d) = isNegativeZero (p.resolve d')) :
    counted ((order d op (.path p) (.number x)).map f) =
      counted ((order d' op (.path p) (.number x)).map f) := by
  simp only [order, leftPath, bind, Except.bind]
  rcases h.resolve_cases p with ⟨hp, hp'⟩ | ⟨v, v', hp, hp', hv⟩
  · rw [hp, hp']
  · rw [hp, hp'] at hzero ⊢
    cases hv.shape with
    | number hm =>
      refine congrArg (fun o => counted (Except.map f (.ok o)))
        (Binary64.compare_eq_of_withoutZeroSign_eq (JsonNumber.withoutZeroSign_congr hm) rfl ?_)
      intro hmzero hxzero
      exact ⟨hzero (beq_iff_eq.2 hmzero) hxzero, rfl⟩
    | _ => rfl

/-- Unless it orders two zeros, an ordering counts for the same on equal documents. -/
theorem counted_order_eq_of_alike (h : Alike d d') (f : Ordering → Bool)
    (hzero : left.isZero d = true → right.isZero d = true → ∀ q, left = .path q ∨ right = .path q →
      isNegativeZero (q.resolve d) = isNegativeZero (q.resolve d')) :
    counted ((order d op left right).map f) = counted ((order d' op left right).map f) := by
  cases left with
  | path p =>
    cases right with
    | path q =>
      exact counted_order_path_eq_of_alike h f fun hp hq =>
        ⟨hzero hp hq p (.inl rfl), hzero hp hq q (.inr rfl)⟩
    | string t => exact counted_order_string_eq_of_alike h t f
    | number x =>
      exact counted_order_number_eq_of_alike h x f fun hp hx =>
        hzero hp (beq_iff_eq.2 hx) p (.inl rfl)
    | null => rfl
    | list xs => rfl
    | regex q => rfl
  | _ => rfl

/-! ### The other operators -/

theorem present_eq_of_alike (h : Alike d d') : present d left = present d' left := by
  cases left with
  | path p => exact congrArg Except.ok (isTruthy_eq_of_alike (h.resolve p))
  | _ => rfl

theorem equals_eq_of_alike (h : Alike d d') : equals d op left right = equals d' op left right := by
  cases left with
  | path p =>
    have hp := h.resolve p
    have hdenotes : (p.resolve d).any right.denotes = (p.resolve d').any right.denotes := by
      rcases h.resolve_cases p with ⟨hp, hp'⟩ | ⟨v, v', hp, hp', hv⟩
      · rw [hp, hp']
      · rw [hp, hp']
        exact denotes_eq_of_alike right hv
    cases right with
    | path q => exact congrArg Except.ok (equalValues_eq_of_alike hp (h.resolve q))
    | string s => exact congrArg Except.ok hdenotes
    | number n => exact congrArg Except.ok hdenotes
    | null => exact congrArg Except.ok (isAbsent_eq_of_alike hp)
    | list xs => rfl
    | regex q => rfl
  | _ => rfl

theorem result_containedIn_path_eq_of_alike (h : Alike d d') {p q : Path} :
    (containedIn d op (.path p) (.path q)).result =
      (containedIn d' op (.path p) (.path q)).result := by
  have hq := h.resolve q
  simp only [containedIn, isAbsent_eq_of_alike (h.resolve p), isAbsent_eq_of_alike hq]
  split
  · rfl
  · rcases h.resolve_cases p with ⟨hp, hp'⟩ | ⟨v, v', hp, hp', hv⟩
    · rw [hp, hp']
    · rw [hp, hp']
      exact congrArg Except.ok (memberOf_eq_of_alike hq fun hitem => hitem.equiv_congr hv)

theorem result_containedIn_eq_of_alike (h : Alike d d') :
    (containedIn d op left right).result = (containedIn d' op left right).result := by
  have hdenotes : ∀ (x : Operand) (q : Path),
      memberOf x.denotes (q.resolve d) = memberOf x.denotes (q.resolve d') := fun x q =>
    memberOf_eq_of_alike (h.resolve q) (denotes_eq_of_alike x)
  cases left with
  | path p =>
    cases right with
    | path q => exact result_containedIn_path_eq_of_alike h
    | list items => exact result_listed_eq_of_alike items (h.resolve p)
    | _ => rfl
  | list xs => cases right <;> rfl
  | regex r => cases right <;> rfl
  | _ =>
    cases right with
    | path q => exact congrArg Except.ok (hdenotes _ q)
    | _ => rfl

theorem anyListed_eq_of_alike (h : Alike d d') :
    anyListed d op left right = anyListed d' op left right := by
  cases left with
  | path p =>
    cases right with
    | list items =>
      simp only [anyListed, leftPath, bind, Except.bind]
      rcases h.resolve_cases p with ⟨hp, hp'⟩ | ⟨v, v', hp, hp', hv⟩
      · rw [hp, hp']
      · rw [hp, hp']
        have hany := any_denotes_eq_of_alike items hv
        cases hv.shape with
        | array hitems =>
          exact congrArg Except.ok (any_eq_of_forall₂ hitems (any_denotes_eq_of_alike items))
        | number => exact congrArg Except.ok hany
        | object => exact congrArg Except.ok hany
        | _ => rfl
    | _ => rfl
  | _ => rfl

/-! ### Predicates and formulas -/

theorem countsAlike_of_alike (h : Alike d d') {p : Predicate}
    (hpattern : p.operator ≠ some .matchesRegex)
    (hzero : p.OrdersZeros d → ∀ q ∈ p.paths,
      isNegativeZero (q.resolve d) = isNegativeZero (q.resolve d')) :
    CountsAlike options d d' p := by
  obtain ⟨left, operator, right⟩ := p
  cases operator with
  | none => exact congrArg counted (present_eq_of_alike h)
  | some op =>
    cases right with
    | none => rfl
    | some right =>
      refine counted_compareBy_congr (fun _ => equals_eq_of_alike h) (fun hop f => ?_)
        (fun _ => result_containedIn_eq_of_alike h)
        (fun hop => absurd (congrArg some hop) hpattern) (fun _ => anyListed_eq_of_alike h)
      refine counted_order_eq_of_alike h f fun hleft hright q hq => ?_
      refine hzero ⟨⟨op, rfl, hop⟩, hleft, right, rfl, hright⟩ q ?_
      rcases hq with rfl | rfl <;> simp [Predicate.paths, Operand.path?]

/-- Equal documents satisfy a formula without `=~` alike, unless an ordering in it compares two
zeros and a path of it leads to zeros of different signs. -/
theorem evaluate_eq_of_equiv {d d' : Json} (hkeys : d.DistinctKeys) (h : d.equiv d' = true)
    {f : Formula} (hpattern : ∀ p ∈ f.predicates, p.operator ≠ some .matchesRegex)
    (hzero : ∀ p ∈ f.predicates, p.OrdersZeros d → ∀ q ∈ p.paths,
      isNegativeZero (q.resolve d) = isNegativeZero (q.resolve d'))
    (options : MatchOptions) : (evaluate options d f).result = (evaluate options d' f).result :=
  result_evaluate_congr f fun p hp =>
    countsAlike_of_alike ⟨hkeys, h⟩ (hpattern p hp) (hzero p hp)

/-- `{"a": 9, "b": -0.0}` and `{"b": 0, "a": 9.0}` are alike for `@.a >= 9 and @.b == 0`, although
the zeros in them differ in sign. -/
theorem evaluate_eq_of_nine :
    let nine : JsonNumber := .double ⟨false, 0x4022000000000000, by decide⟩ (by decide)
    let negativeZero : JsonNumber := .double ⟨true, 0, by decide⟩ (by decide)
    let d : Json := .object [("a", .number (.integer 9)), ("b", .number negativeZero)]
    let d' : Json := .object [("b", .number (.integer 0)), ("a", .number nine)]
    let f : Formula :=
      [.test none false (.compare (.path ⟨["a"]⟩) .greaterEqual (.number (.ofInt 9))),
        .test (some .and) false (.compare (.path ⟨["b"]⟩) .equal (.number (.ofInt 0)))]
    d.DistinctKeys ∧ d.equiv d' = true ∧
      (∀ p ∈ f.predicates, p.operator ≠ some .matchesRegex) ∧
      (∀ p ∈ f.predicates, p.OrdersZeros d → ∀ q ∈ p.paths,
        isNegativeZero (q.resolve d) = isNegativeZero (q.resolve d')) ∧
      (evaluate .standard d f).result = (evaluate .standard d' f).result := by
  intro nine negativeZero d d' f
  have hkeys : d.DistinctKeys := by
    refine .object (by decide) ?_
    simp only [List.forall_mem_cons]
    exact ⟨.number _, .number _, List.forall_mem_nil _⟩
  have hequiv : d.equiv d' = true := by decide +kernel
  have hpattern : ∀ p ∈ f.predicates, p.operator ≠ some .matchesRegex := by decide
  have hzero : ∀ p ∈ f.predicates, p.OrdersZeros d → ∀ q ∈ p.paths,
      isNegativeZero (q.resolve d) = isNegativeZero (q.resolve d') := by
    show ∀ p ∈ [_, _], _
    simp only [List.forall_mem_cons]
    exact ⟨fun _ => by decide, fun h => absurd h.1 (by decide), List.forall_mem_nil _⟩
  exact ⟨hkeys, hequiv, hpattern, hzero, evaluate_eq_of_equiv hkeys hequiv hpattern hzero .standard⟩

/-! ### Zeros of different signs -/

theorem isLT_compare_zero {x : Binary64} (h : x.rank = 0) :
    (compare x (.nearest (.ofInt 0))).isLT = x.isNegativeZero := by
  have hzero : (Binary64.nearest (.ofInt 0)).key = 0 := by decide
  obtain ⟨negative, rank, hle⟩ := x
  obtain rfl : rank = 0 := h
  show (compare (Binary64.key _) _).isLT = _
  rw [hzero]
  cases negative <;> rfl

/-- Among the zeros, `@.q < 0` holds of the negative one only. -/
theorem evaluate_less_zero {q : Path} (h : isZero (q.resolve d) = true) :
    (evaluate options d [.test none false (.compare (.path q) .less (.number (.ofInt 0)))]).result =
      .ok (isNegativeZero (q.resolve d)) := by
  obtain ⟨n, hn, hrank⟩ : ∃ n, q.resolve d = some (.number n) ∧ n.toBinary64.rank = 0 := by
    unfold isZero at h
    split at h
    · next n hn => exact ⟨n, hn, beq_iff_eq.1 h⟩
    · cases h
  have horder : order d .less (.path q) (.number (.ofInt 0)) =
      .ok (compare n.toBinary64 (.nearest (.ofInt 0))) := by
    simp only [order, leftPath, bind, Except.bind, hn]
  have hverdict : (verdict options d (.compare (.path q) .less (.number (.ofInt 0)))).result =
      .ok (isNegativeZero (q.resolve d)) := by
    show (order d .less (.path q) (.number (.ofInt 0))).map (·.isLT) = _
    rw [horder, hn]
    exact congrArg Except.ok (isLT_compare_zero hrank)
  rw [evaluate, Logged.result_bind, clauseVerdict, Logged.result_map, result_contain, hverdict]
  rfl

/-- `{"a": -0.0}` and `{"a": 0}` are equal, and `@.a < 0` holds of the first only. -/
theorem evaluate_ne_of_negativeZero :
    let negativeZero : JsonNumber := .double ⟨true, 0, by decide⟩ (by decide)
    let d : Json := .object [("a", .number negativeZero)]
    let d' : Json := .object [("a", .number (.integer 0))]
    let f : Formula := [.test none false (.compare (.path ⟨["a"]⟩) .less (.number (.ofInt 0)))]
    d.DistinctKeys ∧ d'.DistinctKeys ∧ d.equiv d' = true ∧
      (∀ p ∈ f.predicates, p.operator ≠ some .matchesRegex) ∧
      (evaluate .standard d f).result = .ok true ∧
      (evaluate .standard d' f).result = .ok false := by
  intro negativeZero d d' f
  have hkeys : ∀ n : JsonNumber, (Json.object [("a", .number n)]).DistinctKeys := fun n =>
    .object (by simp) (List.forall_mem_singleton.2 (.number n))
  refine ⟨hkeys _, hkeys _, by decide, by decide, ?_, ?_⟩
  · exact evaluate_less_zero (by decide)
  · exact evaluate_less_zero (by decide)

end Matching
end DocFilter
