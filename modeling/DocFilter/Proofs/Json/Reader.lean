import DocFilter.Json.Reader
import DocFilter.Proofs.Json.Equality
import Mathlib.Data.String.Basic

/-!
# The keys of the documents that are read

The reader puts every member into its place by the order of keys, over one with the same key.  The
keys of an object that is read therefore increase, and none of them occurs twice.
-/

namespace DocFilter
namespace Json

/-! ### Members in order -/

/-- The members are in the order of their keys, and their values have distinct keys. -/
def Ordered (members : List (String × Json)) : Prop :=
  (members.map Prod.fst).Pairwise (· < ·) ∧ ∀ m ∈ members, m.2.DistinctKeys

theorem Ordered.distinctKeys {members : List (String × Json)} (h : Ordered members) :
    DistinctKeys (.object members) :=
  .object (h.1.imp ne_of_lt) h.2

variable {key : String} {v : Json}

theorem mem_insertMember {m : String × Json} {members : List (String × Json)}
    (h : m ∈ insertMember key v members) : m = (key, v) ∨ m ∈ members := by
  induction members with
  | nil => exact .inl (List.mem_singleton.1 h)
  | cons first members ih =>
    rw [insertMember] at h
    split at h
    · exact List.mem_cons.1 h
    · split at h
      · rcases List.mem_cons.1 h with h | h
        · exact .inl h
        · exact .inr (List.mem_cons_of_mem _ h)
      · rcases List.mem_cons.1 h with h | h
        · exact .inr (h ▸ List.mem_cons_self)
        · exact (ih h).imp_right (List.mem_cons_of_mem _)

theorem pairwise_insertMember {members : List (String × Json)}
    (h : (members.map Prod.fst).Pairwise (· < ·)) :
    ((insertMember key v members).map Prod.fst).Pairwise (· < ·) := by
  induction members with
  | nil => exact List.pairwise_singleton _ _
  | cons first members ih =>
    obtain ⟨k, w⟩ := first
    rw [List.map_cons, List.pairwise_cons] at h
    obtain ⟨hfirst, hrest⟩ := h
    rw [insertMember]
    split
    · next hlt =>
      rw [List.map_cons, List.map_cons, List.pairwise_cons, List.pairwise_cons]
      refine ⟨?_, hfirst, hrest⟩
      rw [List.forall_mem_cons]
      exact ⟨hlt, fun k' hk' => hlt.trans (hfirst k' hk')⟩
    · next hnlt =>
      split
      · next heq =>
        subst heq
        rw [List.map_cons, List.pairwise_cons]
        exact ⟨hfirst, hrest⟩
      · next hne =>
        rw [List.map_cons, List.pairwise_cons]
        refine ⟨?_, ih hrest⟩
        intro k' hk'
        obtain ⟨m, hm, rfl⟩ := List.mem_map.1 hk'
        rcases mem_insertMember hm with rfl | hm
        · exact lt_of_le_of_ne (not_lt.1 hnlt) (Ne.symm hne)
        · exact hfirst _ (List.mem_map_of_mem hm)

theorem Ordered.insertMember {members : List (String × Json)} (h : Ordered members)
    (hv : v.DistinctKeys) : Ordered (insertMember key v members) := by
  refine ⟨pairwise_insertMember h.1, fun m hm => ?_⟩
  rcases mem_insertMember hm with rfl | hm
  · exact hv
  · exact h.2 m hm

/-! ### The rules -/

/-- Whether every value that the rule reads has distinct keys. -/
def Rule.ReadsDistinct (value : Rule Json) : Prop :=
  ∀ {s : List Char} {v : Json} {rest : List Char}, value s = some (v, rest) → v.DistinctKeys

theorem scalar?_readsDistinct : scalar?.ReadsDistinct := by
  intro s v rest h
  unfold scalar? at h
  split at h
  · next hc =>
    obtain rfl := Option.some.inj h
    unfold constant? at hc
    split at hc <;> simp only [Option.some.injEq, Prod.mk.injEq, reduceCtorEq] at hc
    · exact hc.1 ▸ .null
    · exact hc.1 ▸ .bool true
    · exact hc.1 ▸ .bool false
  · split at h
    · next ht =>
      simp only [Option.some.injEq, Prod.mk.injEq] at h
      exact h.1 ▸ .string _
    · simp only [Option.map_eq_some_iff, Prod.mk.injEq, Prod.exists] at h
      obtain ⟨n, _, _, rfl, _⟩ := h
      exact .number n

section

variable {value : Rule Json} {shortens : value.Shortens} (hvalue : value.ReadsDistinct)
  {s rest : List Char}
include hvalue

theorem distinctKeys_of_moreItems {vs : List Json}
    (h : moreItems value shortens s = some (vs, rest)) : ∀ v ∈ vs, v.DistinctKeys := by
  fun_induction moreItems value shortens s generalizing vs rest with
  | case1 s r hs =>
    simp only [Option.some.injEq, Prod.mk.injEq] at h
    rw [← h.1]
    exact List.forall_mem_nil _
  | case2 => simp at h
  | case3 s r hs v r' hv ih =>
    simp only [Option.map_eq_some_iff, Prod.mk.injEq, Prod.exists] at h
    obtain ⟨vs, _, h, rfl, _⟩ := h
    exact List.forall_mem_cons.2 ⟨hvalue hv, ih h⟩
  | case4 => simp at h

theorem distinctKeys_of_items {vs : List Json} (h : items value shortens s = some (vs, rest)) :
    ∀ v ∈ vs, v.DistinctKeys := by
  unfold items at h
  split at h
  · simp only [Option.some.injEq, Prod.mk.injEq] at h
    rw [← h.1]
    exact List.forall_mem_nil _
  · split at h
    · simp at h
    · next v r hv =>
      simp only [Option.map_eq_some_iff, Prod.mk.injEq, Prod.exists] at h
      obtain ⟨vs, _, h, rfl, _⟩ := h
      exact List.forall_mem_cons.2 ⟨hvalue hv, distinctKeys_of_moreItems hvalue h⟩

theorem distinctKeys_of_member {m : String × Json} (h : member value s = some (m, rest)) :
    m.2.DistinctKeys := by
  unfold member at h
  split at h
  · simp at h
  · split at h
    · simp only [Option.map_eq_some_iff, Prod.mk.injEq, Prod.exists] at h
      obtain ⟨v, _, h, rfl, _⟩ := h
      exact hvalue h
    · simp at h

theorem ordered_of_moreMembers {before ms : List (String × Json)} (hbefore : Ordered before)
    (h : moreMembers value shortens before s = some (ms, rest)) : Ordered ms := by
  fun_induction moreMembers value shortens before s with
  | case1 before s r hs =>
    simp only [Option.some.injEq, Prod.mk.injEq] at h
    exact h.1 ▸ hbefore
  | case2 => simp at h
  | case3 before s r hs key v r' hv ih =>
    exact ih (hbefore.insertMember (distinctKeys_of_member hvalue hv)) h
  | case4 => simp at h

theorem ordered_of_members {ms : List (String × Json)}
    (h : members value shortens s = some (ms, rest)) : Ordered ms := by
  unfold members at h
  split at h
  · simp only [Option.some.injEq, Prod.mk.injEq] at h
    rw [← h.1]
    exact ⟨.nil, List.forall_mem_nil _⟩
  · split at h
    · simp at h
    · next key v r hv =>
      refine ordered_of_moreMembers hvalue ?_ h
      exact ⟨List.pairwise_singleton _ _,
        List.forall_mem_singleton.2 (distinctKeys_of_member hvalue hv)⟩

theorem container?_readsDistinct (shorter : value.Shortens) :
    (container? value shorter).ReadsDistinct := by
  intro s v rest h
  unfold container? at h
  split at h
  · simp only [Option.map_eq_some_iff, Prod.mk.injEq, Prod.exists] at h
    obtain ⟨vs, _, h, rfl, _⟩ := h
    exact .array (distinctKeys_of_items hvalue h)
  · simp only [Option.map_eq_some_iff, Prod.mk.injEq, Prod.exists] at h
    obtain ⟨ms, _, h, rfl, _⟩ := h
    exact (ordered_of_members hvalue h).distinctKeys
  · simp at h

end

theorem valueRule_readsDistinct (depth : Nat) : Rule.ReadsDistinct (valueRule depth).1 := by
  induction depth with
  | zero => exact scalar?_readsDistinct
  | succ depth ih =>
    intro s v rest h
    dsimp only [valueRule] at h
    split at h
    · next hc =>
      exact container?_readsDistinct ih (valueRule depth).2 (hc.trans h)
    · exact scalar?_readsDistinct h

/-- No object of a document that is read has a key twice. -/
theorem distinctKeys_of_ofText? {s : List Char} {v : Json} (h : ofText? s = some v) :
    v.DistinctKeys := by
  unfold ofText? at h
  split at h
  · next w rest hw =>
    rw [Option.ite_none_right_eq_some, Option.some.injEq] at h
    exact h.2 ▸ valueRule_readsDistinct maxDepth hw
  · cases h

end Json
end DocFilter
