/-!
# White space

The one notion of white space that every part of the library shares: the code points with the
Unicode property `White_Space`.  Note what is not in it: the zero-width space, the byte-order mark
and the four information separators are ordinary characters.
-/

namespace DocFilter

/-- Whether `c` has the Unicode property `White_Space`. -/
def isBlank (c : Char) : Bool :=
  let n := c.toNat
  (0x09 ≤ n && n ≤ 0x0D) || n == 0x20 || n == 0x85 || n == 0xA0 || n == 0x1680 ||
    (0x2000 ≤ n && n ≤ 0x200A) || n == 0x2028 || n == 0x2029 || n == 0x202F || n == 0x205F ||
    n == 0x3000

/-- The text after its leading white space. -/
def skipBlanks (s : List Char) : List Char := s.dropWhile isBlank

/-! ### Skipping blanks -/

@[simp] theorem skipBlanks_nil : skipBlanks [] = [] := rfl

theorem skipBlanks_cons (c : Char) (s : List Char) :
    skipBlanks (c :: s) = if isBlank c then skipBlanks s else c :: s := by
  simp [skipBlanks, List.dropWhile_cons]

theorem skipBlanks_suffix (s : List Char) : skipBlanks s <:+ s := List.dropWhile_suffix _

theorem length_skipBlanks_le (s : List Char) : (skipBlanks s).length ≤ s.length :=
  (skipBlanks_suffix s).length_le

/-- What follows a character after the blanks is shorter than the text. -/
theorem length_lt_of_skipBlanks_eq_cons {c : Char} {s rest : List Char}
    (h : skipBlanks s = c :: rest) : rest.length < s.length := by
  have := length_skipBlanks_le s
  rw [h, List.length_cons] at this
  omega

/-- Skipping stops at a character that is not blank. -/
theorem isBlank_of_skipBlanks {s t : List Char} {c : Char} (h : skipBlanks s = c :: t) :
    isBlank c = false := by
  induction s with
  | nil => simp at h
  | cons d s ih =>
    rw [skipBlanks_cons] at h
    split at h
    · exact ih h
    · next hd => obtain ⟨rfl, rfl⟩ := List.cons.inj h; simpa using hd

@[simp] theorem skipBlanks_skipBlanks (s : List Char) :
    skipBlanks (skipBlanks s) = skipBlanks s := by
  cases h : skipBlanks s with
  | nil => rfl
  | cons c t => simp [skipBlanks_cons, isBlank_of_skipBlanks h]

end DocFilter
