import DocFilter.Query.Reading.Basic
import DocFilter.Text.Scan

/-!
# Reading operands

One rule for each kind of operand: path, list, string, number, null, and to the right of `=~` a
pattern.  They are tried in that order.  Each skips white space in front of it and, when it does not
find its operand, leaves that white space unread too.
-/

namespace DocFilter
namespace Rule

/-! ### Paths -/

/-- Whether `c` may stand in a segment of a path. -/
def inSegment (c : Char) : Bool := !isBlank c && !(['.', ')', '[', '('].contains c)

/-- A point and a key. -/
def segment : Rule String
  | '.' :: s =>
    if s.head? = some '.' then Reading.failAt .deepScan ('.' :: s) s
    else
      let name := s.takeWhile inSegment
      let rest := s.dropWhile inSegment
      if rest.head? = some '[' then Reading.failAt .bracketInPath ('.' :: s) rest
      else if rest.head? = some '(' then Reading.failAt .callInPath ('.' :: s) rest
      else if name.isEmpty then pure none
      else pure (some (String.ofList name, rest))
  | _ => pure none

theorem segment_advances : segment.Advances := by
  intro s a rest h
  unfold segment at h
  split at h
  · next s =>
    simp only at h
    split at h
    · simp [Reading.failAt] at h
    split at h
    · simp [Reading.failAt] at h
    split at h
    · simp [Reading.failAt] at h
    split at h
    · simp at h
    · simp only [Logged.result_pure, Except.ok.injEq, Option.some.injEq, Prod.mk.injEq] at h
      obtain ⟨_, rfl⟩ := h
      have hs : s.dropWhile inSegment <:+ s := List.dropWhile_suffix _
      have := hs.length_le
      exact ⟨hs.trans (List.suffix_cons _ _), by simp only [List.length_cons]; omega⟩
  · simp at h

/-- As many segments as there are. -/
def segments (s : List Char) : Reading (List String × List Char) := do
  match ← (segment s).attach with
  | ⟨none, _⟩ => pure ([], s)
  | ⟨some (name, rest), _⟩ =>
    let (names, rest) ← segments rest
    pure (name :: names, rest)
termination_by s.length
decreasing_by exact (segment_advances ‹_›).2

/-- `@` and at least one segment. -/
def path : Rule Path := fun s =>
  match skipBlanks s with
  | '@' :: s => do
    let (names, rest) ← segments s
    if names.isEmpty then
      Logged.note (.bareAt rest)
      pure none
    else pure (some (⟨names⟩, rest))
  | _ => pure none

/-! ### Literals -/

/-- Text between two quotes of one kind. -/
def string : Rule String := fun s =>
  match skipBlanks s with
  | [] => pure none
  | quote :: s =>
    if quote = '\'' ∨ quote = '"' then
      match s.dropWhile (· != quote) with
      | [] => Reading.failAt .openString (quote :: s) []
      | _ :: rest => pure (some (String.ofList (s.takeWhile (· != quote)), rest))
    else pure none

/-- Whether `c` may stand in a number after its sign. -/
def inNumber (c : Char) : Bool := c.isDigit || c == '.'

/-- The characters that may belong to a number, and the text after them. -/
def splitNumeral : List Char → List Char × List Char
  | '-' :: s => ('-' :: s.takeWhile inNumber, s.dropWhile inNumber)
  | s => (s.takeWhile inNumber, s.dropWhile inNumber)

/-- Whether a number may end just before the text: at its end, at white space or a closing
parenthesis, and in a list also at a comma or the closing bracket. -/
def endsNumber (inList : Bool) : List Char → Bool :=
  endsWord (if inList then [')', ',', ']'] else [')'])

/-- A number.  A character that can neither belong to it nor end it is remarked on. -/
def number (inList : Bool) : Rule Decimal := fun s =>
  let (numeral, rest) := splitNumeral (skipBlanks s)
  if endsNumber inList rest then
    pure ((Decimal.ofLiteral? numeral).map (·, rest))
  else
    match rest with
    | [] => pure none
    | c :: _ => do
      Logged.note (.strayInNumber c rest)
      pure none

/-- The word `null`. -/
def null : Rule Unit := fun s =>
  pure ((afterWord? [',', ']', ')'] "null".toList (skipBlanks s)).map ((), ·))

/-! ### Lists -/

/-- What may stand in a list. -/
def element : Rule Operand :=
  (string.map .string).orElse ((number true).map .number |>.orElse (null.map fun _ => .null))

theorem string_advances : string.Advances := by
  intro s a rest h
  have hs := skipBlanks_suffix s
  unfold string at h
  split at h
  · simp at h
  · next quote t ht =>
    rw [ht] at hs
    split at h
    · split at h
      · simp [Reading.failAt] at h
      · next c r hr =>
        simp only [Logged.result_pure, Except.ok.injEq, Option.some.injEq, Prod.mk.injEq] at h
        obtain ⟨_, rfl⟩ := h
        have h1 : c :: r <:+ t := hr ▸ List.dropWhile_suffix _
        have h2 : r <:+ s :=
          (List.suffix_cons c r).trans (h1.trans ((List.suffix_cons _ _).trans hs))
        have := h1.length_le
        have := hs.length_le
        simp only [List.length_cons] at *
        exact ⟨h2, by omega⟩
    · simp at h

theorem splitNumeral_append (s : List Char) : (splitNumeral s).1 ++ (splitNumeral s).2 = s := by
  unfold splitNumeral
  split <;> simp

theorem ofLiteral?_nil : Decimal.ofLiteral? [] = none := rfl

theorem number_advances (inList : Bool) : (number inList).Advances := by
  intro s a rest h
  have hs := skipBlanks_suffix s
  have happ := splitNumeral_append (skipBlanks s)
  simp only [number] at h
  split at h
  · simp only [Logged.result_pure, Except.ok.injEq, Option.map_eq_some_iff, Prod.mk.injEq] at h
    obtain ⟨_, h, _, rfl⟩ := h
    have hne : (splitNumeral (skipBlanks s)).1 ≠ [] := by
      intro h0
      rw [h0, ofLiteral?_nil] at h
      simp at h
    have hsuf : (splitNumeral (skipBlanks s)).2 <:+ skipBlanks s := ⟨_, happ⟩
    have hlen := congrArg List.length happ
    have := List.length_pos_iff.2 hne
    have := hs.length_le
    rw [List.length_append] at hlen
    exact ⟨hsuf.trans hs, by omega⟩
  · split at h
    · simp at h
    · cases h

theorem null_advances : null.Advances := by
  intro s a rest h
  have hs := skipBlanks_suffix s
  simp only [null, Logged.result_pure, Except.ok.injEq, Option.map_eq_some_iff,
    Prod.mk.injEq] at h
  obtain ⟨_, h, _, rfl⟩ := h
  rw [afterWord?_eq_some_iff] at h
  have hsuf : _ <:+ skipBlanks s := ⟨_, h.1.symm⟩
  have hlen := congrArg List.length h.1
  have := hs.length_le
  simp only [List.length_append, String.reduceToList, List.length_cons, List.length_nil] at hlen
  exact ⟨hsuf.trans hs, by omega⟩

theorem element_advances : element.Advances :=
  (string_advances.map _).orElse (((number_advances true).map _).orElse (null_advances.map _))

/-- The elements of a list up to its closing bracket, the text standing just before an element. -/
def elements (s : List Char) : Reading (List Operand × List Char) := do
  match ← (element s).attach with
  | ⟨none, _⟩ => Reading.failAt .listElement s s
  | ⟨some (x, rest), _⟩ =>
    match _ : skipBlanks rest with
    | ',' :: rest' =>
      let (xs, rest) ← elements rest'
      pure (x :: xs, rest)
    | ']' :: rest' => pure ([x], rest')
    | rest' => Reading.failAt .listSeparator rest' rest'
termination_by s.length
decreasing_by
  exact Nat.lt_trans (length_lt_of_skipBlanks_eq_cons ‹_›) (element_advances ‹_›).2

/-- A list in brackets. -/
def list : Rule (List Operand) := fun s =>
  match skipBlanks s with
  | '[' :: s =>
    match skipBlanks s with
    | ']' :: rest => pure (some ([], rest))
    | _ => do
      let found ← elements s
      pure (some found)
  | _ => pure none

/-! ### Patterns -/

/-- The source of a pattern up to the slash that closes it, where a slash after a backslash stands
for itself, and the text after that slash. -/
def splitSource : List Char → Option (List Char × List Char)
  | [] => none
  | '\\' :: '/' :: s => (splitSource s).map fun (source, rest) => ('/' :: source, rest)
  | c :: s =>
    if c = '/' then some ([], s)
    else (splitSource s).map fun (source, rest) => (c :: source, rest)

/-- Whether `c` may stand among the flags of a pattern. -/
def inFlags (c : Char) : Bool := !isBlank c && c != ')'

/-- A pattern between slashes, and its flags. -/
def regex : Rule Pattern := fun s =>
  match skipBlanks s with
  | '/' :: s =>
    match splitSource s with
    | none => Reading.failAt .openRegex ('/' :: s) []
    | some (source, rest) =>
      let flags := rest.takeWhile inFlags
      let rest := rest.dropWhile inFlags
      match Pattern.ofSource (String.ofList source) (String.ofList flags) with
      | .error why => Reading.failAt (.badPattern why) ('/' :: s) rest
      | .ok p => pure (some (p, rest))
  | _ => pure none

/-! ### Operands -/

/-- A path, a list or a literal. -/
def operand : Rule Operand :=
  (path.map .path).orElse <| (list.map .list).orElse <| (string.map .string).orElse <|
    ((number false).map .number).orElse (null.map fun _ => .null)

/-- What stands to the right of an operator: for `=~` a pattern if there is one. -/
def rightOperand (op : Operator) : Rule Operand :=
  if op = .matchesRegex then (regex.map .regex).orElse operand else operand

/-! ### Every rule takes something -/

theorem segments_suffix {s rest : List Char} {names : List String}
    (h : (segments s).result = .ok (names, rest)) : rest <:+ s := by
  induction hn : s.length using Nat.strongRecOn generalizing s rest names with
  | ind n ih =>
    subst hn
    rw [segments] at h
    simp only [Logged.result_bind] at h
    split at h
    · simp at h
    · next found hfound =>
      obtain ⟨found, hres⟩ := found
      cases found with
      | none =>
        simp only [Logged.result_pure, Except.ok.injEq, Prod.mk.injEq] at h
        exact h.2 ▸ List.suffix_refl _
      | some found =>
        obtain ⟨name, r⟩ := found
        have hadv := segment_advances hres
        simp only [Logged.result_bind] at h
        split at h
        · simp at h
        · next p hp =>
          simp only [Logged.result_pure, Except.ok.injEq, Prod.mk.injEq] at h
          exact h.2 ▸ (ih _ hadv.2 hp rfl).trans hadv.1

theorem path_advances : path.Advances := by
  intro s a rest h
  have hs := skipBlanks_suffix s
  unfold path at h
  split at h
  · next t ht =>
    rw [ht] at hs
    simp only [Logged.result_bind] at h
    split at h
    · simp at h
    · next p hp =>
      split at h
      · cases h
      · simp only [Logged.result_pure, Except.ok.injEq, Option.some.injEq, Prod.mk.injEq] at h
        obtain ⟨_, rfl⟩ := h
        have h1 := segments_suffix hp
        have := h1.length_le
        have := hs.length_le
        simp only [List.length_cons] at this
        exact ⟨h1.trans ((List.suffix_cons _ _).trans hs), by omega⟩
  · simp at h

theorem elements_suffix {s rest : List Char} {xs : List Operand}
    (h : (elements s).result = .ok (xs, rest)) : rest <:+ s := by
  induction hn : s.length using Nat.strongRecOn generalizing s rest xs with
  | ind n ih =>
    subst hn
    rw [elements] at h
    simp only [Logged.result_bind] at h
    split at h
    · simp at h
    · next found hfound =>
      obtain ⟨found, hres⟩ := found
      cases found with
      | none => simp [Reading.failAt] at h
      | some found =>
        obtain ⟨x, r⟩ := found
        have hadv := element_advances hres
        have hb := skipBlanks_suffix r
        simp only at h
        split at h
        · next r' hr' =>
          rw [hr'] at hb
          simp only [Logged.result_bind] at h
          split at h
          · simp at h
          · next p hp =>
            simp only [Logged.result_pure, Except.ok.injEq, Prod.mk.injEq] at h
            have := hb.length_le
            simp only [List.length_cons] at this
            have h1 := ih _ (show r'.length < s.length by omega) hp rfl
            exact h.2 ▸ h1.trans ((List.suffix_cons _ _).trans (hb.trans hadv.1))
        · next r' hr' =>
          rw [hr'] at hb
          simp only [Logged.result_pure, Except.ok.injEq, Prod.mk.injEq] at h
          exact h.2 ▸ (List.suffix_cons _ _).trans (hb.trans hadv.1)
        · simp [Reading.failAt] at h

theorem list_advances : list.Advances := by
  intro s a rest h
  have hs := skipBlanks_suffix s
  unfold list at h
  split at h
  · next t ht =>
    rw [ht] at hs
    have hl := hs.length_le
    have hb := skipBlanks_suffix t
    have htail := (List.suffix_cons '[' t).trans hs
    simp only [List.length_cons] at hl
    split at h
    · next r hr =>
      rw [hr] at hb
      have := hb.length_le
      simp only [Logged.result_pure, Except.ok.injEq, Option.some.injEq, Prod.mk.injEq] at h
      obtain ⟨_, rfl⟩ := h
      simp only [List.length_cons] at this
      exact ⟨(List.suffix_cons _ _).trans (hb.trans htail), by omega⟩
    · simp only [Logged.result_bind] at h
      split at h
      · simp at h
      · next p hp =>
        simp only [Logged.result_pure, Except.ok.injEq, Option.some.injEq] at h
        subst h
        have h1 := elements_suffix hp
        have := h1.length_le
        exact ⟨h1.trans htail, by omega⟩
  · simp at h

theorem splitSource_suffix {s source rest : List Char} (h : splitSource s = some (source, rest)) :
    rest <:+ s := by
  fun_induction splitSource s generalizing source rest with
  | case1 => simp at h
  | case2 s ih =>
    simp only [Option.map_eq_some_iff, Prod.mk.injEq, Prod.exists] at h
    obtain ⟨_, _, h, _, rfl⟩ := h
    exact (ih h).trans ((List.suffix_cons _ _).trans (List.suffix_cons _ _))
  | case3 s =>
    simp only [Option.some.injEq, Prod.mk.injEq] at h
    exact h.2 ▸ List.suffix_cons _ _
  | case4 c s _ _ ih =>
    simp only [Option.map_eq_some_iff, Prod.mk.injEq, Prod.exists] at h
    obtain ⟨_, _, h, _, rfl⟩ := h
    exact (ih h).trans (List.suffix_cons _ _)

theorem regex_advances : regex.Advances := by
  intro s a rest h
  have hs := skipBlanks_suffix s
  unfold regex at h
  split at h
  · next t ht =>
    rw [ht] at hs
    split at h
    · simp [Reading.failAt] at h
    · next source r hr =>
      simp only at h
      split at h
      · simp [Reading.failAt] at h
      · simp only [Logged.result_pure, Except.ok.injEq, Option.some.injEq, Prod.mk.injEq] at h
        obtain ⟨_, rfl⟩ := h
        have h1 : r.dropWhile inFlags <:+ t :=
          (List.dropWhile_suffix _).trans (splitSource_suffix hr)
        have := h1.length_le
        have := hs.length_le
        simp only [List.length_cons] at this
        exact ⟨h1.trans ((List.suffix_cons _ _).trans hs), by omega⟩
  · simp at h

theorem operand_advances : operand.Advances :=
  (path_advances.map _).orElse <| (list_advances.map _).orElse <| (string_advances.map _).orElse <|
    ((number_advances false).map _).orElse (null_advances.map _)

theorem rightOperand_advances (op : Operator) : (rightOperand op).Advances := by
  unfold rightOperand
  split
  · exact (regex_advances.map _).orElse operand_advances
  · exact operand_advances

end Rule
end DocFilter
