import DocFilter.Proofs.Json.Equality
import DocFilter.Proofs.Json.NumberText
import DocFilter.Proofs.Number.Order
import Mathlib.Data.List.Nodup
import Mathlib.Data.String.Basic

/-!
# Documents up to the spelling of their numbers

Equality of documents ignores how numbers are spelled and how the members of objects are arranged,
and nothing else.  To say so, a value is brought into a form in which neither is left: every number
is the rational number that its text denotes, and members stand in the order of their keys.  Two
values without doubled keys are equal exactly if they have one such form, and what is equal has the
same places in it, down to every key and item.
-/

namespace DocFilter

namespace JsonNumber

theorem isSome_ofText?_text (n : JsonNumber) : (Decimal.ofText? n.text).isSome = true :=
  Option.isSome_iff_exists.2 ⟨_, ofText?_text n⟩

/-- The rational number that the text of the number denotes. -/
def denoted (n : JsonNumber) : ℚ := ((Decimal.ofText? n.text).get (isSome_ofText?_text n)).value

theorem denoted_eq (n : JsonNumber) : n.denoted = n.toDecimal.value :=
  congrArg Decimal.value (Option.get_of_eq_some _ (ofText?_text n))

end JsonNumber

/-- A JSON value with rational numbers. -/
inductive ExactJson where
  | null
  | bool (b : Bool)
  | number (value : ℚ)
  | string (s : String)
  | array (items : List ExactJson)
  | object (members : List (String × ExactJson))

namespace Json

/-! ### The form of a value -/

/-- Members in the order of their keys. -/
def sortedByKey {α : Type} (members : List (String × α)) : List (String × α) :=
  members.mergeSort fun m m' => m.1 ≤ m'.1

mutual

/-- The value with its numbers exact and its members in order. -/
def exact : Json → ExactJson
  | null => .null
  | bool b => .bool b
  | number n => .number n.denoted
  | string s => .string s
  | array items => .array (exactItems items)
  | object members => .object (sortedByKey (exactMembers members))
termination_by structural v => v

/-- The items of an array, each in its form. -/
def exactItems : List Json → List ExactJson
  | [] => []
  | v :: items => exact v :: exactItems items
termination_by structural items => items

/-- The members of an object, each with its value in its form. -/
def exactMembers : List (String × Json) → List (String × ExactJson)
  | [] => []
  | (key, v) :: members => (key, exact v) :: exactMembers members
termination_by structural members => members

end

theorem exactMembers_eq_map (members : List (String × Json)) :
    exactMembers members = members.map fun m => (m.1, m.2.exact) := by
  induction members with
  | nil => rfl
  | cons m members ih => rw [exactMembers, ih, List.map_cons]

theorem keys_exactMembers (members : List (String × Json)) :
    (exactMembers members).map Prod.fst = members.map Prod.fst := by
  rw [exactMembers_eq_map, List.map_map]
  rfl

/-! ### Members in order -/

section Sorted

variable {α : Type} {xs ys : List (String × α)}

theorem sortedByKey_perm (xs : List (String × α)) : (sortedByKey xs).Perm xs :=
  List.mergeSort_perm xs _

theorem pairwise_sortedByKey (xs : List (String × α)) :
    (sortedByKey xs).Pairwise fun m m' => m.1 ≤ m'.1 := by
  have htrans : ∀ a b c : String × α, decide (a.1 ≤ b.1) = true → decide (b.1 ≤ c.1) = true →
      decide (a.1 ≤ c.1) = true := by
    intro a b c hab hbc
    rw [decide_eq_true_eq] at hab hbc ⊢
    exact hab.trans hbc
  have htotal : ∀ a b : String × α, (decide (a.1 ≤ b.1) || decide (b.1 ≤ a.1)) = true := by
    intro a b
    rw [Bool.or_eq_true, decide_eq_true_eq, decide_eq_true_eq]
    exact le_total a.1 b.1
  exact (List.pairwise_mergeSort htrans htotal xs).imp of_decide_eq_true

/-- Without doubled keys the order of members is lost by sorting, and nothing else. -/
theorem sortedByKey_eq_iff (hkeys : (xs.map Prod.fst).Nodup) :
    sortedByKey xs = sortedByKey ys ↔ xs.Perm ys := by
  constructor
  · intro h
    exact (sortedByKey_perm xs).symm.trans (h ▸ sortedByKey_perm ys)
  · intro h
    refine List.Perm.eq_of_pairwise ?_ (pairwise_sortedByKey xs) (pairwise_sortedByKey ys)
      ((sortedByKey_perm xs).trans (h.trans (sortedByKey_perm ys).symm))
    intro m m' hm hm' hle hge
    have hmx : m ∈ xs := (sortedByKey_perm xs).mem_iff.1 hm
    have hmx' : m' ∈ xs := h.mem_iff.2 ((sortedByKey_perm ys).mem_iff.1 hm')
    exact List.inj_on_of_nodup_map hkeys hmx hmx' (le_antisymm hle hge)

end Sorted

/-! ### Equality is equality of forms -/

/-- Items are equal one by one if their forms are the same. -/
theorem forall₂_equiv_iff {vs ws : List Json}
    (h : ∀ v ∈ vs, ∀ w ∈ ws, (v.equiv w = true ↔ v.exact = w.exact)) :
    List.Forall₂ (fun v w => v.equiv w = true) vs ws ↔ exactItems vs = exactItems ws := by
  induction vs generalizing ws with
  | nil =>
    cases ws with
    | nil => exact iff_of_true .nil rfl
    | cons w ws => simp [exactItems]
  | cons v vs ih =>
    cases ws with
    | nil => simp [exactItems]
    | cons w ws =>
      have hhead := h v List.mem_cons_self w List.mem_cons_self
      have htail := ih fun v' hv' w' hw' =>
        h v' (List.mem_cons_of_mem v hv') w' (List.mem_cons_of_mem w hw')
      rw [List.forall₂_cons, hhead, htail, exactItems, exactItems, List.cons.injEq]

/-- Objects are equal if they have the same members in the same form, in any order. -/
theorem members_equiv_iff {xs ys : List (String × Json)} (hxs : (xs.map Prod.fst).Nodup)
    (hys : (ys.map Prod.fst).Nodup)
    (h : ∀ m ∈ xs, ∀ m' ∈ ys, (m.2.equiv m'.2 = true ↔ m.2.exact = m'.2.exact)) :
    (xs.length = ys.length ∧ ∀ m ∈ xs, ∃ y, ys.lookup m.1 = some y ∧ m.2.equiv y = true) ↔
      (exactMembers xs).Perm (exactMembers ys) := by
  simp only [exactMembers_eq_map]
  constructor
  · rintro ⟨hlen, hmembers⟩
    -- No member occurs twice, so each having a counterpart is enough.
    have hnodup : (xs.map fun m => (m.1, m.2.exact)).Nodup := by
      rw [← exactMembers_eq_map]
      exact List.Nodup.of_map Prod.fst (keys_exactMembers xs ▸ hxs)
    have hsubset : xs.map (fun m => (m.1, m.2.exact)) ⊆ ys.map fun m => (m.1, m.2.exact) := by
      intro form hform
      obtain ⟨m, hm, rfl⟩ := List.mem_map.1 hform
      obtain ⟨y, hy, hmy⟩ := hmembers m hm
      have hmem := mem_of_lookup hy
      rw [(h m hm _ hmem).1 hmy]
      exact List.mem_map_of_mem hmem
    refine (List.subperm_of_subset hnodup hsubset).perm_of_length_le ?_
    rw [List.length_map, List.length_map, hlen]
  · intro hperm
    refine ⟨by simpa using hperm.length_eq, fun m hm => ?_⟩
    obtain ⟨m', hm', hform⟩ := List.mem_map.1 (hperm.mem_iff.1 (List.mem_map_of_mem hm))
    obtain ⟨hkey, hexact⟩ := Prod.mk.inj hform
    exact ⟨m'.2, hkey ▸ lookup_of_mem hys hm', (h m hm m' hm').2 hexact.symm⟩

/-- Values without doubled keys are equal exactly if they have one form. -/
theorem equiv_iff_exact_eq {v w : Json} (hv : v.DistinctKeys) (hw : w.DistinctKeys) :
    v.equiv w = true ↔ v.exact = w.exact := by
  induction v using ind generalizing w with
  | null => cases w <;> simp [exact]
  | bool b =>
    cases w with
    | bool b' => rw [equiv, beq_iff_eq, exact, exact, ExactJson.bool.injEq]
    | _ => simp [exact]
  | number m =>
    cases w with
    | number n =>
      rw [equiv, Decimal.beq_iff_value_eq, exact, exact, ExactJson.number.injEq,
        JsonNumber.denoted_eq, JsonNumber.denoted_eq]
    | _ => simp [exact]
  | string s =>
    cases w with
    | string t => rw [equiv, beq_iff_eq, exact, exact, ExactJson.string.injEq]
    | _ => simp [exact]
  | array vs ih =>
    cases w with
    | array ws =>
      cases hv with
      | array hvs =>
        cases hw with
        | array hws =>
          rw [equiv, equivItems_iff, exact, exact, ExactJson.array.injEq]
          exact forall₂_equiv_iff fun v hv w hw => ih v hv (hvs v hv) (hws w hw)
    | _ => simp [equiv, exact]
  | object xs ih =>
    cases w with
    | object ys =>
      cases hv with
      | object hxs hvs =>
        cases hw with
        | object hys hws =>
          rw [equiv, Bool.and_eq_true, beq_iff_eq, equivMembers_iff, exact, exact,
            ExactJson.object.injEq, sortedByKey_eq_iff (keys_exactMembers xs ▸ hxs)]
          exact members_equiv_iff hxs hys fun m hm m' hm' => ih m hm (hvs m hm) (hws m' hm')
    | _ => simp [equiv, exact]

/-! ### Places -/

/-- One step into a value: to the member with a key, or to an item. -/
inductive Step where
  | key (key : String)
  | item (index : Nat)

/-- What a step leads to. -/
def step? (v : Json) : Step → Option Json
  | .key key => v.get? key
  | .item index =>
    match v with
    | .array items => items[index]?
    | _ => none

/-- What stands at a place, if the place is there. -/
def at? (v : Json) (place : List Step) : Option Json := place.foldlM step? v

theorem getElem?_alike {vs ws : List Json} (h : List.Forall₂ Alike vs ws) (index : Nat) :
    Option.Rel Alike vs[index]? ws[index]? := by
  induction h generalizing index with
  | nil => exact .none
  | cons hvw _ ih =>
    cases index with
    | zero => exact .some hvw
    | succ index => exact ih index

namespace Alike

theorem step? {v w : Json} (h : Alike v w) (step : Step) :
    Option.Rel Alike (v.step? step) (w.step? step) := by
  cases step with
  | key key => exact h.get? key
  | item index =>
    cases h.shape with
    | array hitems => exact getElem?_alike hitems index
    | _ => exact .none

/-- Equal values have the same places. -/
theorem isSome_at? {v w : Json} (h : Alike v w) (place : List Step) :
    (v.at? place).isSome = (w.at? place).isSome := by
  induction place generalizing v w with
  | nil => rfl
  | cons step place ih =>
    have hstep := h.step? step
    simp only [at?, List.foldlM_cons] at ih ⊢
    generalize v.step? step = x, w.step? step = y at hstep ⊢
    cases hstep with
    | none => rfl
    | some hxy => exact ih hxy

end Alike

/-- Among values without doubled keys equality is an equivalence, it is the equality of forms, and a
place that only one of two values has, such as a key, makes them unequal. -/
theorem equiv_laws {u v w : Json} (hu : u.DistinctKeys) (hv : v.DistinctKeys)
    (hw : w.DistinctKeys) :
    u.equiv u = true ∧ u.equiv v = v.equiv u ∧
      (u.equiv v = true → v.equiv w = true → u.equiv w = true) ∧
      (u.equiv v = true ↔ u.exact = v.exact) ∧
      ∀ place, (u.at? place).isSome ≠ (v.at? place).isSome → u.equiv v = false := by
  refine ⟨(equiv_iff_exact_eq hu hu).2 rfl, ?_, ?_, equiv_iff_exact_eq hu hv, ?_⟩
  · rw [Bool.eq_iff_iff, equiv_iff_exact_eq hu hv, equiv_iff_exact_eq hv hu]
    exact eq_comm
  · rw [equiv_iff_exact_eq hu hv, equiv_iff_exact_eq hv hw, equiv_iff_exact_eq hu hw]
    exact Eq.trans
  · intro place hplace
    rw [← Bool.not_eq_true]
    intro hequiv
    exact hplace (Alike.isSome_at? ⟨hu, hequiv⟩ place)

/-- `{"a": [9], "b": null}` is equal to `{"b": null, "a": [9.0]}`, whose form is the same, and not
to `{"a": [9], "c": null}`, which lacks the key `b`.  Nor is 9007199254740993 equal to
9007199254740992.0, though it is the nearest double to both. -/
theorem equiv_laws_of_nine :
    let nine : JsonNumber := .double ⟨false, 0x4022000000000000, by decide⟩ (by decide)
    let u : Json := .object [("a", .array [.number (.integer 9)]), ("b", .null)]
    let v : Json := .object [("b", .null), ("a", .array [.number nine])]
    let w : Json := .object [("a", .array [.number (.integer 9)]), ("c", .null)]
    let odd : JsonNumber := .integer 9007199254740993
    let even : JsonNumber := .double ⟨false, 0x4340000000000000, by decide⟩ (by decide)
    u.DistinctKeys ∧ v.DistinctKeys ∧ w.DistinctKeys ∧ u.equiv v = true ∧ u.exact = v.exact ∧
      v.equiv u = true ∧ u.equiv w = false ∧
      odd.toBinary64 = even.toBinary64 ∧ (number odd).equiv (number even) = false ∧
      (number odd).exact ≠ (number even).exact := by
  intro nine u v w odd even
  have hitem : ∀ n : JsonNumber, (Json.array [.number n]).DistinctKeys := fun n =>
    .array (List.forall_mem_singleton.2 (.number n))
  have hpair : ∀ {key key' : String} {x y : Json}, [key, key'].Nodup → x.DistinctKeys →
      y.DistinctKeys → (Json.object [(key, x), (key', y)]).DistinctKeys := by
    intro key key' x y hkeys hx hy
    refine .object hkeys ?_
    simp only [List.forall_mem_cons]
    exact ⟨hx, hy, List.forall_mem_nil _⟩
  have hu : u.DistinctKeys := hpair (by decide) (hitem _) .null
  have hv : v.DistinctKeys := hpair (by decide) .null (hitem _)
  have hw : w.DistinctKeys := hpair (by decide) (hitem _) .null
  have huv : u.equiv v = true := by decide +kernel
  have hodd : (number odd).equiv (number even) = false := by decide +kernel
  obtain ⟨-, hsymm, -, hforms, -⟩ := equiv_laws hu hv hw
  obtain ⟨-, -, -, -, hplaces⟩ := equiv_laws hu hw hv
  obtain ⟨-, -, -, hnumbers, -⟩ := equiv_laws (.number odd) (.number even) .null
  refine ⟨hu, hv, hw, huv, hforms.1 huv, hsymm ▸ huv, hplaces [.key "b"] (by decide),
    by decide +kernel, hodd, fun hform => ?_⟩
  rw [hnumbers.2 hform] at hodd
  cases hodd

end Json
end DocFilter
