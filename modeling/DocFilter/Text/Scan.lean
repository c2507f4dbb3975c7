import DocFilter.Text.Blank

/-!
# Reading tokens off the front of a text

A text is a list of characters and a reader takes a prefix off it.  A *token* is taken wherever the
text starts with it; a *word* only where the text goes on with white space, its end, or one of a
given set of delimiters, so that `in` is not read off the front of `index`.
-/

namespace DocFilter

/-- What follows `token`, when `s` starts with it. -/
def afterToken? : (token s : List Char) → Option (List Char)
  | [], s => some s
  | _ :: _, [] => none
  | t :: token, c :: s => if c = t then afterToken? token s else none

/-- Whether a word may end just before `s`: at the end of the text, at white space or at one of
`delims`. -/
def endsWord (delims : List Char) : (s : List Char) → Bool
  | [] => true
  | c :: _ => isBlank c || delims.contains c

/-- What follows `token`, when `s` starts with it as a word of its own. -/
def afterWord? (delims token s : List Char) : Option (List Char) :=
  match afterToken? token s with
  | some rest => if endsWord delims rest then some rest else none
  | none => none

/-! ### What was read -/

theorem afterToken?_eq_some_iff {token s rest : List Char} :
    afterToken? token s = some rest ↔ s = token ++ rest := by
  induction token generalizing s with
  | nil => simp [afterToken?]
  | cons t token ih =>
    cases s with
    | nil => simp [afterToken?]
    | cons c s =>
      by_cases h : c = t
      · simp [afterToken?, h, ih]
      · simp [afterToken?, h]

theorem afterWord?_eq_some_iff {delims token s rest : List Char} :
    afterWord? delims token s = some rest ↔ s = token ++ rest ∧ endsWord delims rest = true := by
  unfold afterWord?
  cases h : afterToken? token s with
  | none =>
    simp only [reduceCtorEq, false_iff, not_and]
    intro hs
    simp [afterToken?_eq_some_iff.2 hs] at h
  | some r =>
    rw [afterToken?_eq_some_iff] at h
    subst h
    by_cases hr : endsWord delims r
    · simp only [hr, if_true, Option.some.injEq, List.append_cancel_left_eq]
      exact ⟨fun h => ⟨h, h ▸ hr⟩, fun h => h.1⟩
    · simp only [hr, Bool.false_eq_true, if_false, reduceCtorEq, List.append_cancel_left_eq,
        false_iff, not_and]
      rintro rfl
      exact hr

end DocFilter
