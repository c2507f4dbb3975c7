import Mathlib.Data.List.TakeWhile
import DocFilter.Text.Scan

/-!
# Blanks and words in context

A rule takes as much as it can off the front of a text, so what it takes depends on what comes
next.  These lemmas say where it stops: a run of blanks before a character that is none, and a word
before a text that ends a word.  A text before which no word may end begins with a character that
is no blank.
-/

namespace DocFilter

/-- A run of white space, possibly empty. -/
def Blanks (w : List Char) : Prop := ∀ c ∈ w, isBlank c = true

instance (w : List Char) : Decidable (Blanks w) :=
  decidable_of_iff (w.all isBlank = true) List.all_eq_true

theorem blanks_nil : Blanks [] := fun _ h => absurd h List.not_mem_nil

theorem Blanks.append {u v : List Char} (hu : Blanks u) (hv : Blanks v) : Blanks (u ++ v) := by
  intro c hc
  rcases List.mem_append.1 hc with h | h
  · exact hu c h
  · exact hv c h

/-! ### Stopping -/

/-- The longest run of `p` at the front of `w ++ rest` is `w`, if `rest` does not prolong it. -/
theorem takeWhile_append_stop {p : Char → Bool} {w rest : List Char} (hw : ∀ c ∈ w, p c = true)
    (hr : ∀ c ∈ rest.head?, p c = false) : (w ++ rest).takeWhile p = w := by
  rw [List.takeWhile_append_of_pos hw]
  cases rest with
  | nil => simp
  | cons c t => simp [hr c rfl]

/-- What is left after the longest run of `p` at the front of `w ++ rest`. -/
theorem dropWhile_append_stop {p : Char → Bool} {w rest : List Char} (hw : ∀ c ∈ w, p c = true)
    (hr : ∀ c ∈ rest.head?, p c = false) : (w ++ rest).dropWhile p = rest := by
  rw [List.dropWhile_append_of_pos hw]
  cases rest with
  | nil => simp
  | cons c t => simp [hr c rfl]

/-- Dropping stops at a character that is not dropped. -/
theorem head_dropWhile {p : Char → Bool} {s : List Char} :
    ∀ c ∈ (s.dropWhile p).head?, p c = false := by
  have h := List.head?_dropWhile_not p s
  intro c hc
  rw [Option.mem_def] at hc
  simpa [hc] using h

/-! ### Skipping blanks -/

theorem skipBlanks_append {u : List Char} (hu : Blanks u) (s : List Char) :
    skipBlanks (u ++ s) = skipBlanks s :=
  List.dropWhile_append_of_pos hu

theorem exists_blanks (s : List Char) : ∃ u, Blanks u ∧ s = u ++ skipBlanks s :=
  ⟨s.takeWhile isBlank, fun _ hc => List.mem_takeWhile_imp hc,
    List.takeWhile_append_dropWhile.symm⟩

theorem exists_blanks_of_skipBlanks {s t : List Char} (h : skipBlanks s = t) :
    ∃ u, Blanks u ∧ s = u ++ t := h ▸ exists_blanks s

/-! ### Where a word may end -/

theorem endsWord_cons {delims : List Char} {c : Char} {s : List Char} :
    endsWord delims (c :: s) = (isBlank c || delims.contains c) := rfl

theorem endsWord_mono {delims delims' s : List Char} (hd : delims ⊆ delims')
    (h : endsWord delims s = true) : endsWord delims' s = true := by
  cases s with
  | nil => rfl
  | cons c s =>
    simp only [endsWord_cons, Bool.or_eq_true, List.contains_iff_mem] at h ⊢
    exact h.imp_right (@hd c)

theorem endsWord_eq_false_mono {delims delims' s : List Char} (hd : delims ⊆ delims')
    (h : endsWord delims' s = false) : endsWord delims s = false := by
  rw [← Bool.not_eq_true] at h ⊢
  exact fun h' => h (endsWord_mono hd h')

/-- Blanks end a word, and if there are none what comes after them does. -/
theorem endsWord_append {delims u s : List Char} (hu : Blanks u)
    (h : u = [] → endsWord delims s = true) : endsWord delims (u ++ s) = true := by
  cases u with
  | nil => exact h rfl
  | cons c u => simp [endsWord_cons, hu c List.mem_cons_self]

theorem endsWord_append_eq_false {delims w : List Char} (h : endsWord delims w = false)
    (s : List Char) : endsWord delims (w ++ s) = false := by
  cases w with
  | nil => cases h
  | cons c w => exact h

/-- A text before which no word may end is not blank at its front. -/
theorem skipBlanks_of_endsWord_eq_false {delims s : List Char} (h : endsWord delims s = false) :
    skipBlanks s = s := by
  cases s with
  | nil => rfl
  | cons c s =>
    rw [endsWord_cons, Bool.or_eq_false_iff] at h
    simp [skipBlanks_cons, h.1]

/-- If `w` begins where no word may end, blanks stand between it and a word before it. -/
theorem ne_nil_of_endsWord {delims u w s : List Char} (h : endsWord delims (u ++ (w ++ s)) = true)
    (hw : endsWord delims w = false) : u ≠ [] := by
  rintro rfl
  rw [List.nil_append, endsWord_append_eq_false hw] at h
  cases h

/-- The character before which a word ends. -/
theorem mem_head_of_endsWord {delims s : List Char} (h : endsWord delims s = true) :
    ∀ c ∈ s.head?, isBlank c = true ∨ c ∈ delims := by
  cases s with
  | nil => simp
  | cons c s =>
    intro d hd
    obtain rfl : c = d := by simpa using hd
    simpa [endsWord_cons] using h

theorem head?_ne_of_endsWord {delims s : List Char} {c : Char} (h : endsWord delims s = true)
    (hb : isBlank c = false) (hc : c ∉ delims) : s.head? ≠ some c := by
  intro hs
  rcases mem_head_of_endsWord h c hs with h | h
  · rw [hb] at h
    cases h
  · exact hc h

theorem head?_ne_of_endsWord_eq_false {delims s : List Char} {c : Char}
    (h : endsWord delims s = false) (hc : c ∈ delims) : s.head? ≠ some c := by
  cases s with
  | nil => cases h
  | cons d s =>
    rintro hd
    obtain rfl : d = c := by simpa using hd
    rw [endsWord_cons, List.contains_iff_mem.2 hc, Bool.or_true] at h
    cases h

/-! ### Words -/

/-- Characters none of which ends a word. -/
def IsWord (delims w : List Char) : Prop := ∀ c ∈ w, isBlank c = false ∧ c ∉ delims

instance (delims w : List Char) : Decidable (IsWord delims w) :=
  decidable_of_iff (w.all (fun c => !isBlank c && !delims.contains c) = true)
    (by simp [IsWord, List.all_eq_true])

/-- At most one word comes next. -/
theorem word_unique {delims w w' rest rest' : List Char} (hw : IsWord delims w)
    (hw' : IsWord delims w') (hr : endsWord delims rest = true)
    (hr' : endsWord delims rest' = true) (h : w ++ rest = w' ++ rest') :
    w = w' ∧ rest = rest' := by
  -- Both words are the longest run of characters that end no word.
  let p : Char → Bool := fun c => !(isBlank c || delims.contains c)
  have hp : ∀ {v : List Char}, IsWord delims v → ∀ c ∈ v, p c = true := by
    intro v hv c hc
    obtain ⟨h1, h2⟩ := hv c hc
    simp [p, h1, h2]
  have hs : ∀ {t : List Char}, endsWord delims t = true → ∀ c ∈ t.head?, p c = false := by
    intro t ht c hc
    rcases mem_head_of_endsWord ht c hc with h | h
    · simp [p, h]
    · simp [p, h]
  have hword : w = w' := by
    rw [← takeWhile_append_stop (hp hw) (hs hr), h, takeWhile_append_stop (hp hw') (hs hr')]
  subst hword
  exact ⟨rfl, List.append_cancel_left h⟩

/-- At most one word is read off the front of a text. -/
theorem afterWord?_unique {delims w w' s rest rest' : List Char} (hw : IsWord delims w)
    (hw' : IsWord delims w') (h : afterWord? delims w s = some rest)
    (h' : afterWord? delims w' s = some rest') : w = w' ∧ rest = rest' := by
  obtain ⟨heq, hends⟩ := afterWord?_eq_some_iff.1 h
  obtain ⟨heq', hends'⟩ := afterWord?_eq_some_iff.1 h'
  exact word_unique hw hw' hends hends' (heq.symm.trans heq')

/-- A token of one character is not there if the text begins with another one. -/
theorem afterToken?_of_head {c : Char} {s : List Char} (h : s.head? ≠ some c) :
    afterToken? [c] s = none := by
  cases s with
  | nil => rfl
  | cons d s =>
    have hne : d ≠ c := fun heq => h (congrArg some heq)
    rw [afterToken?, if_neg hne]

/-- The first value found is the only one there is to find. -/
theorem findSome?_eq_some_of_unique {α β : Type} {f : α → Option β} {l : List α} {b : β}
    (h : ∃ a ∈ l, f a = some b) (hu : ∀ a ∈ l, ∀ b', f a = some b' → b' = b) :
    l.findSome? f = some b := by
  cases hf : l.findSome? f with
  | none =>
    obtain ⟨a, ha, hb⟩ := h
    rw [List.findSome?_eq_none_iff.1 hf a ha] at hb
    cases hb
  | some b' =>
    obtain ⟨a, ha, hb⟩ := List.exists_of_findSome?_eq_some hf
    rw [hu a ha b' hb]

/-- Where at most one value is to be found the order of the search does not matter. -/
theorem findSome?_eq_of_perm {α β : Type} {f : α → Option β} {l l' : List α} (hl : l.Perm l')
    (hu : ∀ a ∈ l, ∀ a' ∈ l, ∀ b b', f a = some b → f a' = some b' → b' = b) :
    l.findSome? f = l'.findSome? f := by
  cases hf : l'.findSome? f with
  | none =>
    apply List.findSome?_eq_none_iff.2
    intro a ha
    exact List.findSome?_eq_none_iff.1 hf a (hl.mem_iff.1 ha)
  | some b =>
    obtain ⟨a, ha, hb⟩ := List.exists_of_findSome?_eq_some hf
    have hmem := hl.mem_iff.2 ha
    exact findSome?_eq_some_of_unique ⟨a, hmem, hb⟩ fun a' ha' b' => hu a hmem a' ha' b b' hb

end DocFilter
