import DocFilter.Json.Equality
import DocFilter.Proofs.Number.Rounding
import DocFilter.Query.Operand
import Mathlib.Data.List.Forall2
import Mathlib.Data.List.Perm.Subperm

/-!
# Equality of documents is an equivalence

Equality looks up every member of the object on the left in the one on the right, which makes it
symmetric as soon as no key of the left occurs twice.  Documents that are equal then lead to equal
values along every path, and what a value is equal to does not depend on how its numbers are
spelled.
-/

namespace DocFilter
namespace Json

/-! ### Induction -/

/-- Induction on values: over the items of an array and the members of an object. -/
@[elab_as_elim]
theorem ind {motive : Json → Prop} (null : motive .null) (bool : ∀ b, motive (.bool b))
    (number : ∀ n, motive (.number n)) (string : ∀ s, motive (.string s))
    (array : ∀ items, (∀ v ∈ items, motive v) → motive (.array items))
    (object : ∀ members, (∀ m ∈ members, motive m.2) → motive (.object members)) :
    ∀ v, motive v
  | .null => null
  | .bool b => bool b
  | .number n => number n
  | .string s => string s
  | .array items => array items fun v (_ : v ∈ items) =>
      ind null bool number string array object v
  | .object members => object members fun m (_ : m ∈ members) =>
      ind null bool number string array object m.2
termination_by v => sizeOf v
decreasing_by
  · have hlt := List.sizeOf_lt_of_mem ‹v ∈ items›
    rw [Json.array.sizeOf_spec]
    omega
  · have hlt := List.sizeOf_lt_of_mem ‹m ∈ members›
    have hpair : sizeOf m = 1 + sizeOf m.1 + sizeOf m.2 := rfl
    rw [Json.object.sizeOf_spec]
    omega

/-! ### Keys -/

/-- No object in the value has a key twice. -/
inductive DistinctKeys : Json → Prop
  | null : DistinctKeys .null
  | bool (b : Bool) : DistinctKeys (.bool b)
  | number (n : JsonNumber) : DistinctKeys (.number n)
  | string (s : String) : DistinctKeys (.string s)
  | array {items : List Json} (hitems : ∀ v ∈ items, DistinctKeys v) :
      DistinctKeys (.array items)
  | object {members : List (String × Json)} (hkeys : (members.map Prod.fst).Nodup)
      (hvalues : ∀ m ∈ members, DistinctKeys m.2) : DistinctKeys (.object members)

variable {v w : Json} {key : String} {xs ys : List (String × Json)}

theorem mem_of_lookup (h : xs.lookup key = some v) : (key, v) ∈ xs := by
  obtain ⟨_, _, rfl, -⟩ := List.lookup_eq_some_iff.1 h
  simp

theorem lookup_of_mem (hkeys : (xs.map Prod.fst).Nodup) {m : String × Json} (h : m ∈ xs) :
    xs.lookup m.1 = some m.2 := by
  obtain ⟨before, after, rfl⟩ := List.append_of_mem h
  refine List.lookup_eq_some_iff.2 ⟨before, after, rfl, fun m' hm' => ?_⟩
  rw [List.map_append, List.map_cons, List.nodup_append] at hkeys
  have hne := hkeys.2.2 m'.1 (List.mem_map_of_mem hm') m.1 List.mem_cons_self
  exact bne_iff_ne.2 hne.symm

/-! ### What is equal to what -/

@[simp] theorem equiv_null_iff : equiv .null w = true ↔ w = .null := by
  cases w <;> simp [equiv]

@[simp] theorem equiv_bool_iff {b : Bool} : equiv (.bool b) w = true ↔ w = .bool b := by
  cases w <;> simp [equiv]
  exact eq_comm

@[simp] theorem equiv_number_iff {m : JsonNumber} :
    equiv (.number m) w = true ↔ ∃ n, w = .number n ∧ (m.toDecimal == n.toDecimal) = true := by
  cases w <;> simp [equiv]

@[simp] theorem equiv_string_iff {s : String} : equiv (.string s) w = true ↔ w = .string s := by
  cases w <;> simp [equiv]
  exact eq_comm

theorem equivItems_iff {vs ws : List Json} :
    equivItems vs ws = true ↔ List.Forall₂ (fun v w => v.equiv w = true) vs ws := by
  induction vs generalizing ws with
  | nil => cases ws <;> simp [equivItems]
  | cons v vs ih => cases ws <;> simp [equivItems, ih]

theorem equiv_array_iff {vs : List Json} : equiv (.array vs) w = true ↔
    ∃ ws, w = .array ws ∧ List.Forall₂ (fun v w => v.equiv w = true) vs ws := by
  cases w <;> simp [equiv, equivItems_iff]

theorem equivMembers_iff : equivMembers xs ys = true ↔
    ∀ m ∈ xs, ∃ y, ys.lookup m.1 = some y ∧ m.2.equiv y = true := by
  induction xs with
  | nil => simp [equivMembers]
  | cons m xs ih =>
    rw [equivMembers, Bool.and_eq_true, ih, List.forall_mem_cons]
    cases ys.lookup m.1 <;> simp

theorem equiv_object_iff : equiv (.object xs) w = true ↔ ∃ ys, w = .object ys ∧
    xs.length = ys.length ∧ ∀ m ∈ xs, ∃ y, ys.lookup m.1 = some y ∧ m.2.equiv y = true := by
  cases w <;> simp [equiv, equivMembers_iff]

/-- Equal objects have the same keys. -/
theorem keys_perm (hkeys : (xs.map Prod.fst).Nodup) (hlen : xs.length = ys.length)
    (h : ∀ m ∈ xs, ∃ y, ys.lookup m.1 = some y ∧ m.2.equiv y = true) :
    (xs.map Prod.fst).Perm (ys.map Prod.fst) := by
  have hsubset : xs.map Prod.fst ⊆ ys.map Prod.fst := by
    intro key hkey
    obtain ⟨m, hm, rfl⟩ := List.mem_map.1 hkey
    obtain ⟨y, hy, -⟩ := h m hm
    exact List.mem_map.2 ⟨_, mem_of_lookup hy, rfl⟩
  refine (List.subperm_of_subset hkeys hsubset).perm_of_length_le ?_
  rw [List.length_map, List.length_map, hlen]

/-! ### Symmetry and transitivity -/

theorem forall₂_of_mem {α β : Type} {R S : α → β → Prop} {as : List α} {bs : List β}
    (h : List.Forall₂ R as bs) (hRS : ∀ a ∈ as, ∀ b, R a b → S a b) : List.Forall₂ S as bs := by
  induction h with
  | nil => exact .nil
  | cons hab _ ih =>
    rw [List.forall_mem_cons] at hRS
    exact .cons (hRS.1 _ hab) (ih hRS.2)

theorem forall₂_trans_of_mem {α : Type} {R : α → α → Prop} {as bs cs : List α}
    (hab : List.Forall₂ R as bs) (hbc : List.Forall₂ R bs cs)
    (htrans : ∀ a ∈ as, ∀ b c, R a b → R b c → R a c) : List.Forall₂ R as cs := by
  induction hab generalizing cs with
  | nil => exact hbc
  | cons hab _ ih =>
    rw [List.forall_mem_cons] at htrans
    cases hbc with
    | cons hbc hrest => exact .cons (htrans.1 _ _ hab hbc) (ih hrest htrans.2)

/-- Equality can be turned round if the keys of the left side are distinct. -/
theorem DistinctKeys.equiv_symm (hv : v.DistinctKeys) :
    ∀ {w}, v.equiv w = true → w.equiv v = true := by
  induction v using ind with
  | null =>
    intro w h
    rw [equiv_null_iff.1 h, equiv_null_iff]
  | bool b =>
    intro w h
    rw [equiv_bool_iff.1 h, equiv_bool_iff]
  | number m =>
    intro w h
    obtain ⟨n, rfl, hn⟩ := equiv_number_iff.1 h
    exact equiv_number_iff.2 ⟨m, rfl, BEq.symm hn⟩
  | string s =>
    intro w h
    rw [equiv_string_iff.1 h, equiv_string_iff]
  | array vs ih =>
    intro w h
    cases hv with
    | array hitems =>
      obtain ⟨ws, rfl, hws⟩ := equiv_array_iff.1 h
      refine equiv_array_iff.2 ⟨vs, rfl, List.Forall₂.flip ?_⟩
      exact forall₂_of_mem hws fun v hv w => ih v hv (hitems v hv)
  | object xs ih =>
    intro w h
    cases hv with
    | object hkeys hvalues =>
      obtain ⟨ys, rfl, hlen, hmembers⟩ := equiv_object_iff.1 h
      have hperm := keys_perm hkeys hlen hmembers
      refine equiv_object_iff.2 ⟨xs, rfl, hlen.symm, fun m hm => ?_⟩
      -- The member on the left that has the key of `m` is equal to `m` and to no other.
      obtain ⟨m', hm', hkey⟩ := List.mem_map.1 (hperm.mem_iff.2 (List.mem_map_of_mem hm))
      obtain ⟨y, hy, hequiv⟩ := hmembers m' hm'
      rw [hkey, lookup_of_mem (hperm.nodup hkeys) hm, Option.some.injEq] at hy
      subst hy
      exact ⟨m'.2, hkey ▸ lookup_of_mem hkeys hm', ih m' hm' (hvalues m' hm') hequiv⟩

theorem equiv_trans {u : Json} (huv : u.equiv v = true) (hvw : v.equiv w = true) :
    u.equiv w = true := by
  induction u using ind generalizing v w with
  | null => rwa [equiv_null_iff.1 huv] at hvw
  | bool b => rwa [equiv_bool_iff.1 huv] at hvw
  | number m =>
    obtain ⟨n, rfl, hn⟩ := equiv_number_iff.1 huv
    obtain ⟨k, rfl, hk⟩ := equiv_number_iff.1 hvw
    exact equiv_number_iff.2 ⟨k, rfl, BEq.trans hn hk⟩
  | string s => rwa [equiv_string_iff.1 huv] at hvw
  | array us ih =>
    obtain ⟨vs, rfl, hvs⟩ := equiv_array_iff.1 huv
    obtain ⟨ws, rfl, hws⟩ := equiv_array_iff.1 hvw
    exact equiv_array_iff.2 ⟨ws, rfl, forall₂_trans_of_mem hvs hws fun u hu _ _ => ih u hu⟩
  | object us ih =>
    obtain ⟨vs, rfl, hlen, hvs⟩ := equiv_object_iff.1 huv
    obtain ⟨ws, rfl, hlen', hws⟩ := equiv_object_iff.1 hvw
    refine equiv_object_iff.2 ⟨ws, rfl, hlen.trans hlen', fun m hm => ?_⟩
    obtain ⟨y, hy, hmy⟩ := hvs m hm
    obtain ⟨z, hz, hyz⟩ := hws _ (mem_of_lookup hy)
    exact ⟨z, hz, ih m hm hmy hyz⟩

/-! ### Equal values -/

/-- Equal values, the left one with distinct keys. -/
structure Alike (v w : Json) : Prop where
  distinctKeys : v.DistinctKeys
  equiv : v.equiv w = true

namespace Alike

theorem symm (h : Alike v w) : w.equiv v = true := h.distinctKeys.equiv_symm h.equiv

/-- What a value is equal to does not depend on the spelling of its numbers. -/
theorem equiv_congr {v' w' : Json} (hv : Alike v v') (hw : Alike w w') :
    v.equiv w = v'.equiv w' := by
  rw [Bool.eq_iff_iff]
  constructor
  · intro h
    exact equiv_trans hv.symm (equiv_trans h hw.equiv)
  · intro h
    exact equiv_trans hv.equiv (equiv_trans h hw.symm)

end Alike

/-- What equal values have in common. -/
inductive Shape : Json → Json → Prop
  | null : Shape .null .null
  | bool (b : Bool) : Shape (.bool b) (.bool b)
  | number {m n : JsonNumber} (hvalue : (m.toDecimal == n.toDecimal) = true) :
      Shape (.number m) (.number n)
  | string (s : String) : Shape (.string s) (.string s)
  | array {vs ws : List Json} (hitems : List.Forall₂ Alike vs ws) : Shape (.array vs) (.array ws)
  | object {xs ys : List (String × Json)}
      (hlookup : ∀ key, Option.Rel Alike (xs.lookup key) (ys.lookup key)) :
      Shape (.object xs) (.object ys)

/-- Under every key equal objects have equal values, or none. -/
theorem lookup_alike (hkeys : (xs.map Prod.fst).Nodup) (hvalues : ∀ m ∈ xs, m.2.DistinctKeys)
    (hlen : xs.length = ys.length)
    (hmembers : ∀ m ∈ xs, ∃ y, ys.lookup m.1 = some y ∧ m.2.equiv y = true) (key : String) :
    Option.Rel Alike (xs.lookup key) (ys.lookup key) := by
  cases hx : xs.lookup key with
  | some x =>
    have hmem := mem_of_lookup hx
    obtain ⟨y, hy, hxy⟩ := hmembers _ hmem
    rw [hy]
    exact .some ⟨hvalues _ hmem, hxy⟩
  | none =>
    cases hy : ys.lookup key with
    | none => exact .none
    | some y =>
      have hkey : key ∈ xs.map Prod.fst := (keys_perm hkeys hlen hmembers).mem_iff.2
        (List.mem_map.2 ⟨_, mem_of_lookup hy, rfl⟩)
      obtain ⟨m, hm, rfl⟩ := List.mem_map.1 hkey
      rw [lookup_of_mem hkeys hm] at hx
      cases hx

namespace Alike

theorem shape (h : Alike v w) : Shape v w := by
  obtain ⟨hdistinct, hequiv⟩ := h
  cases hdistinct with
  | null =>
    obtain rfl := equiv_null_iff.1 hequiv
    exact .null
  | bool b =>
    obtain rfl := equiv_bool_iff.1 hequiv
    exact .bool b
  | number m =>
    obtain ⟨n, rfl, hvalue⟩ := equiv_number_iff.1 hequiv
    exact .number hvalue
  | string s =>
    obtain rfl := equiv_string_iff.1 hequiv
    exact .string s
  | array hitems =>
    obtain ⟨ws, rfl, hws⟩ := equiv_array_iff.1 hequiv
    exact .array (forall₂_of_mem hws fun v hv w hvw => ⟨hitems v hv, hvw⟩)
  | object hkeys hvalues =>
    obtain ⟨ys, rfl, hlen, hmembers⟩ := equiv_object_iff.1 hequiv
    exact .object (lookup_alike hkeys hvalues hlen hmembers)

theorem isNull_eq (h : Alike v w) : v.isNull = w.isNull := by
  cases h.shape <;> rfl

theorem get? (h : Alike v w) (key : String) : Option.Rel Alike (v.get? key) (w.get? key) := by
  cases h.shape with
  | object hlookup => exact hlookup key
  | _ => exact .none

/-- Equal documents lead to equal values along every path. -/
theorem resolve (h : Alike v w) (p : Path) : Option.Rel Alike (p.resolve v) (p.resolve w) := by
  obtain ⟨segments⟩ := p
  induction segments generalizing v w with
  | nil => exact .some h
  | cons key segments ih =>
    have hkey := h.get? key
    simp only [Path.resolve, List.foldlM_cons] at ih ⊢
    generalize v.get? key = x, w.get? key = y at hkey ⊢
    cases hkey with
    | none => exact .none
    | some hxy => exact ih hxy

theorem resolve_cases (h : Alike v w) (p : Path) :
    (p.resolve v = none ∧ p.resolve w = none) ∨
      ∃ x y, p.resolve v = some x ∧ p.resolve w = some y ∧ Alike x y := by
  have hp := h.resolve p
  generalize p.resolve v = x, p.resolve w = y at hp ⊢
  cases hp with
  | none => exact .inl ⟨rfl, rfl⟩
  | some hxy => exact .inr ⟨_, _, rfl, rfl, hxy⟩

end Alike

end Json
end DocFilter
