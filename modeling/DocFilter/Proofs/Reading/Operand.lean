import DocFilter.Proofs.Numeral
import DocFilter.Proofs.Pattern
import DocFilter.Query.Reading.Operand

/-!
# Operand rules and their grammar

Each rule takes a value off a text exactly if the text begins, after blanks, with a spelling of the
value and goes on with something that does not prolong the spelling.  Strings and lists go on with
anything; the others with the end of a word, and a path also with a point that begins no key.
-/

namespace DocFilter
namespace Rule

open Grammar

variable {α β : Type}

/-! ### Choice and change of value -/

theorem result_orElse (first second : Rule α) (s : List Char) :
    (first.orElse second s).result = match (first s).result with
      | .error f => .error f
      | .ok none => (second s).result
      | .ok (some found) => .ok (some found) := by
  simp only [Rule.orElse, Logged.result_bind]
  rcases (first s).result with f | (_ | found) <;> rfl

theorem result_map (f : α → β) (rule : Rule α) (s : List Char) :
    (rule.map f s).result = match (rule s).result with
      | .error f => .error f
      | .ok none => .ok none
      | .ok (some (a, rest)) => .ok (some (f a, rest)) := by
  simp only [Rule.map, Logged.result_bind]
  rcases (rule s).result with f | (_ | ⟨a, rest⟩) <;> rfl

theorem orElse_eq_some_iff {first second : Rule α} {s : List Char} {found : α × List Char} :
    (first.orElse second s).result = .ok (some found) ↔
      (first s).result = .ok (some found) ∨
        (first s).result = .ok none ∧ (second s).result = .ok (some found) := by
  rw [result_orElse]
  rcases (first s).result with f | (_ | found') <;> simp

theorem orElse_of_none {first second : Rule α} {s : List Char} (h : (first s).result = .ok none) :
    (first.orElse second s).result = (second s).result := by
  rw [result_orElse, h]

theorem orElse_of_some {first second : Rule α} {s : List Char} {found : α × List Char}
    (h : (first s).result = .ok (some found)) :
    (first.orElse second s).result = .ok (some found) := by
  rw [result_orElse, h]

theorem map_eq_some_iff {f : α → β} {rule : Rule α} {s rest : List Char} {b : β} :
    (rule.map f s).result = .ok (some (b, rest)) ↔
      ∃ a, (rule s).result = .ok (some (a, rest)) ∧ f a = b := by
  rw [result_map]
  rcases (rule s).result with e | (_ | ⟨a, rest'⟩)
  · simp
  · simp
  · simp only [Except.ok.injEq, Option.some.injEq, Prod.mk.injEq]
    constructor
    · rintro ⟨rfl, rfl⟩
      exact ⟨a, ⟨rfl, rfl⟩, rfl⟩
    · rintro ⟨_, ⟨rfl, rfl⟩, rfl⟩
      exact ⟨rfl, rfl⟩

theorem map_of_none {f : α → β} {rule : Rule α} {s : List Char} (h : (rule s).result = .ok none) :
    (rule.map f s).result = .ok none := by
  rw [result_map, h]

theorem map_of_some {f : α → β} {rule : Rule α} {s rest : List Char} {a : α}
    (h : (rule s).result = .ok (some (a, rest))) :
    (rule.map f s).result = .ok (some (f a, rest)) := by
  rw [result_map, h]

/-! ### Blanks in front

Every rule skips them. -/

/-- Whether the rule does the same with blanks in front of a text and without them. -/
def SkipsBlanks (rule : Rule α) : Prop :=
  ∀ ⦃u : List Char⦄, Blanks u → ∀ s, rule (u ++ s) = rule s

theorem SkipsBlanks.orElse {first second : Rule α} (hf : first.SkipsBlanks)
    (hs : second.SkipsBlanks) : (first.orElse second).SkipsBlanks := by
  intro u hu s
  simp only [Rule.orElse, hf hu, hs hu]

theorem SkipsBlanks.map {rule : Rule α} (hr : rule.SkipsBlanks) (f : α → β) :
    (rule.map f).SkipsBlanks := by
  intro u hu s
  simp only [Rule.map, hr hu]

theorem path_skipsBlanks : path.SkipsBlanks := by
  intro u hu s
  simp only [path, skipBlanks_append hu]

theorem string_skipsBlanks : string.SkipsBlanks := by
  intro u hu s
  simp only [string, skipBlanks_append hu]

theorem number_skipsBlanks (inList : Bool) : (number inList).SkipsBlanks := by
  intro u hu s
  simp only [number, skipBlanks_append hu]

theorem null_skipsBlanks : null.SkipsBlanks := by
  intro u hu s
  simp only [null, skipBlanks_append hu]

theorem list_skipsBlanks : list.SkipsBlanks := by
  intro u hu s
  simp only [list, skipBlanks_append hu]

theorem regex_skipsBlanks : regex.SkipsBlanks := by
  intro u hu s
  simp only [regex, skipBlanks_append hu]

theorem element_skipsBlanks : element.SkipsBlanks :=
  (string_skipsBlanks.map _).orElse
    (((number_skipsBlanks true).map _).orElse (null_skipsBlanks.map _))

theorem operand_skipsBlanks : operand.SkipsBlanks :=
  (path_skipsBlanks.map _).orElse <| (list_skipsBlanks.map _).orElse <|
    (string_skipsBlanks.map _).orElse <|
      ((number_skipsBlanks false).map _).orElse (null_skipsBlanks.map _)

/-! ### Paths -/

theorem inSegment_iff {c : Char} :
    inSegment c = true ↔ isBlank c = false ∧ c ∉ ['.', ')', '[', '('] := by
  simp [inSegment]

/-- A key is taken if it is followed by the end of a word, or by a point. -/
theorem segment_eq_some_iff {s rest : List Char} {name : String} :
    (segment s).result = .ok (some (name, rest)) ↔
      ∃ w, s = '.' :: (w ++ rest) ∧ IsSegment w ∧ name = String.ofList w ∧
        endsWord ['.', ')'] rest = true := by
  constructor
  · intro h
    unfold segment at h
    split at h
    · next t =>
      simp only at h
      split at h
      · simp [Reading.failAt] at h
      split at h
      · simp [Reading.failAt] at h
      split at h
      · simp [Reading.failAt] at h
      split at h
      · simp at h
      next hbracket hparen hname =>
      simp only [Logged.result_pure, Except.ok.injEq, Option.some.injEq, Prod.mk.injEq] at h
      obtain ⟨rfl, rfl⟩ := h
      refine ⟨t.takeWhile inSegment, by rw [List.takeWhile_append_dropWhile], ⟨?_, ?_⟩, rfl, ?_⟩
      · simpa using hname
      · intro c hc
        exact inSegment_iff.1 (List.mem_takeWhile_imp hc)
      · cases hrest : t.dropWhile inSegment with
        | nil => rfl
        | cons c r =>
          have hc : inSegment c = false :=
            head_dropWhile c (by rw [hrest]; rfl)
          rw [hrest] at hbracket hparen
          simp only [List.head?_cons, Option.some.injEq] at hbracket hparen
          rw [← Bool.not_eq_true, inSegment_iff] at hc
          simp only [endsWord_cons, Bool.or_eq_true, List.contains_iff_mem]
          by_cases hb : isBlank c = true
          · exact .inl hb
          · by_cases hdot : c = '.' <;> simp_all
    · simp at h
  · rintro ⟨w, rfl, ⟨hne, hw⟩, rfl, hr⟩
    have hall : ∀ c ∈ w, inSegment c = true := fun c hc => inSegment_iff.2 (hw c hc)
    have hstop : ∀ c ∈ rest.head?, inSegment c = false := by
      intro c hc
      rw [← Bool.not_eq_true, inSegment_iff]
      rcases mem_head_of_endsWord hr c hc with h | h
      · simp [h]
      · have hc : c = '.' ∨ c = ')' := by simpa using h
        rcases hc with rfl | rfl <;> simp
    have hdot : w.head? ≠ some '.' := by
      intro h
      have := (hw '.' (List.mem_of_head? h)).2
      simp at this
    simp [segment, hdot, takeWhile_append_stop hall hstop, dropWhile_append_stop hall hstop,
      head?_ne_of_endsWord hr (show isBlank '[' = false from rfl) (by decide),
      head?_ne_of_endsWord hr (show isBlank '(' = false from rfl) (by decide), hne]

/-- There is no key where a word ends. -/
theorem segment_of_endsWord {s : List Char} (h : endsWord [')'] s = true) :
    (segment s).result = .ok none := by
  unfold segment
  split
  · simp [endsWord_cons, isBlank] at h
  · rfl

theorem segments_eq_ok_iff {s rest : List Char} {names : List String} :
    (segments s).result = .ok (names, rest) ↔
      ((segment s).result = .ok none ∧ names = [] ∧ rest = s) ∨
        ∃ name r names', (segment s).result = .ok (some (name, r)) ∧
          (segments r).result = .ok (names', rest) ∧ names = name :: names' := by
  rw [segments, Logged.result_attach_bind]
  split
  · next e he => simp [he]
  · next found hfound =>
    cases found with
    | none => simp [hfound, eq_comm]
    | some found =>
      obtain ⟨name, r⟩ := found
      simp only [Logged.result_bind, hfound]
      constructor
      · intro h
        split at h
        · cases h
        · next p hp =>
          cases h
          exact .inr ⟨name, r, p.1, rfl, hp, rfl⟩
      · rintro (⟨h, _⟩ | ⟨_, _, _, h, hrest, rfl⟩)
        · cases h
        · cases h
          rw [hrest]
          rfl

/-- Keys are taken up to a text in which no further key begins. -/
theorem segments_sound {s rest : List Char} {names : List String}
    (h : (segments s).result = .ok (names, rest)) :
    ∃ ws : List (List Char), (∀ w ∈ ws, IsSegment w) ∧ names = ws.map String.ofList ∧
      s = ws.flatMap ('.' :: ·) ++ rest ∧ (ws ≠ [] → endsWord ['.', ')'] rest = true) := by
  induction hn : s.length using Nat.strongRecOn generalizing s rest names with
  | ind n ih =>
    subst hn
    rcases segments_eq_ok_iff.1 h with ⟨_, rfl, rfl⟩ | ⟨name, r, names', hseg, hmore, rfl⟩
    · exact ⟨[], by simp, rfl, rfl, by simp⟩
    · have hlt := (segment_advances hseg).2
      obtain ⟨ws, hws, rfl, rfl, hend⟩ := ih _ hlt hmore rfl
      obtain ⟨w, rfl, hw, rfl, hr⟩ := segment_eq_some_iff.1 hseg
      refine ⟨w :: ws, by simpa using ⟨hw, hws⟩, rfl, by simp, fun _ => ?_⟩
      cases ws with
      | nil => exact hr
      | cons w' ws => exact hend (by simp)

theorem segments_complete {ws : List (List Char)} {rest : List Char} (hws : ∀ w ∈ ws, IsSegment w)
    (hr : endsWord [')'] rest = true) :
    (segments (ws.flatMap ('.' :: ·) ++ rest)).result = .ok (ws.map String.ofList, rest) := by
  induction ws with
  | nil => exact segments_eq_ok_iff.2 (.inl ⟨segment_of_endsWord hr, rfl, rfl⟩)
  | cons w ws ih =>
    have hnext : endsWord ['.', ')'] (ws.flatMap ('.' :: ·) ++ rest) = true := by
      cases ws with
      | nil => exact endsWord_mono (by simp) hr
      | cons w' ws => rfl
    refine segments_eq_ok_iff.2 (.inr ⟨_, _, _, ?_, ih fun v hv => hws v (by simp [hv]), rfl⟩)
    exact segment_eq_some_iff.2 ⟨w, by simp, hws w List.mem_cons_self, rfl, hnext⟩

theorem path_of_head {s : List Char} (h : (skipBlanks s).head? ≠ some '@') :
    (path s).result = .ok none := by
  unfold path
  split
  · next heq =>
    rw [heq] at h
    exact absurd rfl h
  · rfl

theorem path_sound {s rest : List Char} {p : Path} (h : (path s).result = .ok (some (p, rest))) :
    ∃ u w, Blanks u ∧ PathText w p ∧ s = u ++ (w ++ rest) ∧ endsWord ['.', ')'] rest = true := by
  unfold path at h
  split at h
  · next t ht =>
    obtain ⟨u, hu, rfl⟩ := exists_blanks_of_skipBlanks ht
    rw [Logged.result_bind] at h
    split at h
    · cases h
    · next names hnames =>
      obtain ⟨names, r⟩ := names
      obtain ⟨ws, hws, rfl, rfl, hend⟩ := segments_sound hnames
      cases ws with
      | nil => cases h
      | cons w ws =>
        simp only [List.map_cons, List.isEmpty_cons, Bool.false_eq_true, if_false,
          Logged.result_pure, Except.ok.injEq, Option.some.injEq, Prod.mk.injEq] at h
        obtain ⟨rfl, rfl⟩ := h
        exact ⟨u, _, hu, .segments (List.cons_ne_nil w ws) hws, rfl, hend (List.cons_ne_nil w ws)⟩
  · simp at h

theorem path_complete {w rest : List Char} {p : Path} (h : PathText w p)
    (hr : endsWord [')'] rest = true) : (path (w ++ rest)).result = .ok (some (p, rest)) := by
  obtain ⟨hne, hws⟩ := h
  next names =>
  have hskip : skipBlanks ('@' :: (names.flatMap ('.' :: ·) ++ rest)) =
      '@' :: (names.flatMap ('.' :: ·) ++ rest) := rfl
  simp [path, hskip, Logged.result_bind, segments_complete hws hr, hne]

/-! ### Literals -/

theorem string_of_head {s t : List Char} {c : Char} (h : skipBlanks s = c :: t)
    (hc : c ≠ '\'' ∧ c ≠ '"') : (string s).result = .ok none := by
  simp [string, h, hc.1, hc.2]

theorem string_eq_some_iff {s rest : List Char} {x : String} :
    (string s).result = .ok (some (x, rest)) ↔
      ∃ u w, Blanks u ∧ StringText w x ∧ s = u ++ (w ++ rest) := by
  constructor
  · intro h
    unfold string at h
    split at h
    · simp at h
    · next quote t ht =>
      obtain ⟨u, hu, rfl⟩ := exists_blanks_of_skipBlanks ht
      split at h
      · next hq =>
        split at h
        · simp [Reading.failAt] at h
        · next c r hr =>
          simp only [Logged.result_pure, Except.ok.injEq, Option.some.injEq, Prod.mk.injEq] at h
          obtain ⟨rfl, rfl⟩ := h
          have hc : c = quote := by
            have := head_dropWhile (p := (· != quote)) c (by rw [hr]; rfl)
            simpa using this
          subst hc
          refine ⟨u, c :: (t.takeWhile (· != c) ++ [c]), hu, .quoted hq ?_, ?_⟩
          · intro hmem
            have := List.mem_takeWhile_imp hmem
            simp at this
          · simp [← hr]
      · simp at h
  · rintro ⟨u, w, hu, ⟨hq, hw⟩, rfl⟩
    next quote w =>
    have hall : ∀ c ∈ w, (c != quote) = true := by
      intro c hc
      rw [bne_iff_ne]
      rintro rfl
      exact hw hc
    have hstop : ∀ c ∈ (quote :: rest).head?, (c != quote) = false := by
      rintro c hc
      simpa using hc.symm
    have hblank : isBlank quote = false := by
      rcases hq with rfl | rfl <;> rfl
    rw [string_skipsBlanks hu]
    simp [string, skipBlanks_cons, hblank, hq, takeWhile_append_stop hall hstop,
      dropWhile_append_stop hall hstop]

theorem inNumber_of_endsNumber {inList : Bool} {rest : List Char}
    (h : endsNumber inList rest = true) : ∀ c ∈ rest.head?, inNumber c = false := by
  intro c hc
  have hends : endsWord [')', ',', ']'] rest = true := by
    refine endsWord_mono ?_ h
    cases inList <;> simp
  rcases mem_head_of_endsWord hends c hc with hb | hd
  · have hdigit : c.isDigit = false := by
      rw [← Bool.not_eq_true]
      intro hdigit
      rw [isBlank_of_isDigit hdigit] at hb
      cases hb
    have hdot : c ≠ '.' := by
      rintro rfl
      cases hb
    simp [inNumber, hdigit, hdot]
  · have hc : c = ')' ∨ c = ',' ∨ c = ']' := by simpa using hd
    rcases hc with rfl | rfl | rfl <;> rfl

theorem inNumber_of_digits {w : List Char} (hw : Digits w) : ∀ c ∈ w, inNumber c = true := by
  intro c hc
  simp [inNumber, hw.2 c hc]

theorem splitNumeral_of_ne {c : Char} {s : List Char} (hc : c ≠ '-') :
    splitNumeral (c :: s) = ((c :: s).takeWhile inNumber, (c :: s).dropWhile inNumber) := by
  unfold splitNumeral
  split
  · next heq => exact absurd (List.cons.inj heq).1 hc
  · rfl

/-- A number is split off whole from what cannot prolong it. -/
theorem splitNumeral_append_stop {w rest : List Char} {d : Decimal} (h : NumberText w d)
    (hr : ∀ c ∈ rest.head?, inNumber c = false) : splitNumeral (w ++ rest) = (w, rest) := by
  obtain ⟨negative, c, t, rfl, hc, hall⟩ : ∃ negative c t, w = minus negative ++ c :: t ∧
      c ≠ '-' ∧ ∀ x ∈ c :: t, inNumber x = true := by
    have hne : ∀ {c : Char}, c.isDigit = true → c ≠ '-' := by
      rintro _ hc rfl
      cases hc
    cases h with
    | @integer negative whole hw =>
      obtain ⟨c, t, rfl, hc⟩ := hw.head
      exact ⟨negative, c, t, rfl, hne hc, inNumber_of_digits hw⟩
    | @fraction negative whole fraction hw hf =>
      obtain ⟨c, t, rfl, hc⟩ := hw.head
      refine ⟨negative, c, t ++ '.' :: fraction, rfl, hne hc, ?_⟩
      intro x hx
      rw [← List.cons_append] at hx
      rcases List.mem_append.1 hx with hx | hx
      · exact inNumber_of_digits hw x hx
      · rcases List.mem_cons.1 hx with rfl | hx
        · rfl
        · exact inNumber_of_digits hf x hx
  have htake := takeWhile_append_stop hall hr
  have hdrop := dropWhile_append_stop hall hr
  rw [List.cons_append] at htake hdrop
  cases negative with
  | true => simp [minus, splitNumeral, htake, hdrop]
  | false => simp [minus, splitNumeral_of_ne hc, htake, hdrop]

theorem number_of_head {inList : Bool} {s t : List Char} {c : Char} (h : skipBlanks s = c :: t)
    (hc : c ≠ '-' ∧ inNumber c = false) : (number inList s).result = .ok none := by
  have hsplit : splitNumeral (skipBlanks s) = ([], c :: t) := by
    rw [h, splitNumeral_of_ne hc.1]
    simp [hc.2]
  simp only [number, hsplit]
  split
  · rfl
  · rfl

theorem number_eq_some_iff {inList : Bool} {s rest : List Char} {d : Decimal} :
    (number inList s).result = .ok (some (d, rest)) ↔
      ∃ u w, Blanks u ∧ NumberText w d ∧ s = u ++ (w ++ rest) ∧ endsNumber inList rest = true := by
  constructor
  · intro h
    obtain ⟨u, hu, hs⟩ := exists_blanks s
    have happ := splitNumeral_append (skipBlanks s)
    simp only [number] at h
    split at h
    · next hends =>
      simp only [Logged.result_pure, Except.ok.injEq, Option.map_eq_some_iff, Prod.mk.injEq] at h
      obtain ⟨_, hd, rfl, rfl⟩ := h
      exact ⟨u, _, hu, Decimal.ofLiteral?_eq_some_iff.1 hd, by rw [happ, ← hs], hends⟩
    · split at h
      · simp at h
      · cases h
  · rintro ⟨u, w, hu, hw, rfl, hends⟩
    have hskip : skipBlanks (w ++ rest) = w ++ rest :=
      skipBlanks_of_endsWord_eq_false (endsWord_append_eq_false (ElementText.number hw).opens rest)
    rw [number_skipsBlanks inList hu]
    simp only [number, hskip, splitNumeral_append_stop hw (inNumber_of_endsNumber hends), hends,
      if_true, Decimal.ofLiteral?_eq_some_iff.2 hw]
    rfl

theorem null_eq_some_iff {s rest : List Char} :
    (null s).result = .ok (some ((), rest)) ↔
      ∃ u, Blanks u ∧ s = u ++ ("null".toList ++ rest) ∧ endsWord [',', ']', ')'] rest = true := by
  simp only [null, Logged.result_pure, Except.ok.injEq, Option.map_eq_some_iff, Prod.mk.injEq,
    true_and, exists_eq_right, afterWord?_eq_some_iff]
  constructor
  · rintro ⟨hs, hends⟩
    obtain ⟨u, hu, rfl⟩ := exists_blanks_of_skipBlanks hs
    exact ⟨u, hu, rfl, hends⟩
  · rintro ⟨u, hu, rfl, hends⟩
    exact ⟨skipBlanks_append hu _, hends⟩

/-! Which rules pass over numbers and null -/

theorem string_of_number {w : List Char} {d : Decimal} (hw : NumberText w d) (rest : List Char) :
    (string (w ++ rest)).result = .ok none := by
  have hskip := skipBlanks_of_endsWord_eq_false
    (endsWord_append_eq_false (ElementText.number hw).opens rest)
  obtain ⟨c, t, rfl, hc⟩ := hw.head
  refine string_of_head hskip ?_
  constructor <;> (rintro rfl; simp at hc)

theorem string_of_null (rest : List Char) : (string ("null".toList ++ rest)).result = .ok none :=
  string_of_head (t := 'u' :: 'l' :: 'l' :: rest) rfl (by decide)

theorem number_of_null (inList : Bool) (rest : List Char) :
    (number inList ("null".toList ++ rest)).result = .ok none :=
  number_of_head (t := 'u' :: 'l' :: 'l' :: rest) rfl (by decide)

/-! ### Lists -/

/-- In a list a number and null end at a comma and a bracket too. -/
theorem element_eq_some_iff {s rest : List Char} {x : Operand} :
    (element s).result = .ok (some (x, rest)) ↔
      ∃ u w, Blanks u ∧ ElementText w x ∧ s = u ++ (w ++ rest) ∧
        (x.showsEnd = false → endsWord [')', ',', ']'] rest = true) := by
  constructor
  · intro h
    rcases orElse_eq_some_iff.1 h with h | ⟨_, h⟩
    · obtain ⟨a, ha, rfl⟩ := map_eq_some_iff.1 h
      obtain ⟨u, w, hu, hw, rfl⟩ := string_eq_some_iff.1 ha
      exact ⟨u, w, hu, .string hw, rfl, fun h => by cases h⟩
    rcases orElse_eq_some_iff.1 h with h | ⟨_, h⟩
    · obtain ⟨d, hd, rfl⟩ := map_eq_some_iff.1 h
      obtain ⟨u, w, hu, hw, rfl, hends⟩ := number_eq_some_iff.1 hd
      exact ⟨u, w, hu, .number hw, rfl, fun _ => hends⟩
    · obtain ⟨_, hn, rfl⟩ := map_eq_some_iff.1 h
      obtain ⟨u, hu, rfl, hends⟩ := null_eq_some_iff.1 hn
      exact ⟨u, _, hu, .null, rfl, fun _ => endsWord_mono (by simp) hends⟩
  · rintro ⟨u, w, hu, hw, rfl, hends⟩
    rw [element_skipsBlanks hu]
    cases hw with
    | string hw =>
      exact orElse_of_some
        (map_of_some (string_eq_some_iff.2 ⟨[], w, blanks_nil, hw, rfl⟩))
    | number hw =>
      have hend : endsNumber true rest = true := hends rfl
      have hnumber := number_eq_some_iff.2 ⟨[], w, blanks_nil, hw, rfl, hend⟩
      exact (orElse_of_none (map_of_none (string_of_number hw rest))).trans
        (orElse_of_some (map_of_some hnumber))
    | null =>
      have hend : endsWord [',', ']', ')'] rest = true := endsWord_mono (by simp) (hends rfl)
      have hnull := null_eq_some_iff.2 ⟨[], blanks_nil, rfl, hend⟩
      exact (orElse_of_none (map_of_none (string_of_null rest))).trans <|
        (orElse_of_none (map_of_none (number_of_null true rest))).trans (map_of_some hnull)

theorem elements_eq_ok_iff {s rest : List Char} {xs : List Operand} :
    (elements s).result = .ok (xs, rest) ↔
      ∃ x r, (element s).result = .ok (some (x, r)) ∧
        ((skipBlanks r = ']' :: rest ∧ xs = [x]) ∨
          ∃ r' xs', skipBlanks r = ',' :: r' ∧ (elements r').result = .ok (xs', rest) ∧
            xs = x :: xs') := by
  rw [elements, Logged.result_attach_bind]
  split
  · next e he => simp [he]
  · next found hfound =>
    cases found with
    | none => simp [hfound, Reading.failAt]
    | some found =>
      obtain ⟨x, r⟩ := found
      simp only [hfound]
      constructor
      · intro h
        refine ⟨x, r, rfl, ?_⟩
        split at h
        · next r' hr' =>
          rw [Logged.result_bind] at h
          split at h
          · cases h
          · next p hp =>
            cases h
            exact .inr ⟨r', p.1, hr', hp, rfl⟩
        · next r' hr' =>
          cases h
          exact .inl ⟨hr', rfl⟩
        · simp [Reading.failAt] at h
      · rintro ⟨_, _, h, hcont⟩
        cases h
        split
        · next r' hr' =>
          rw [hr'] at hcont
          rcases hcont with ⟨h, _⟩ | ⟨_, xs', h, hmore, rfl⟩
          · cases h
          · cases h
            rw [Logged.result_bind, hmore]
            rfl
        · next r' hr' =>
          rw [hr'] at hcont
          rcases hcont with ⟨h, rfl⟩ | ⟨_, _, h, _⟩
          · cases h
            rfl
          · cases h
        · next hcomma hbracket =>
          rcases hcont with ⟨h, _⟩ | ⟨r', _, h, _⟩
          · exact absurd h (hbracket rest)
          · exact absurd h (hcomma r')

theorem elements_sound {s rest : List Char} {xs : List Operand}
    (h : (elements s).result = .ok (xs, rest)) : ∃ w, ElementsText w xs ∧ s = w ++ ']' :: rest := by
  induction hn : s.length using Nat.strongRecOn generalizing s rest xs with
  | ind n ih =>
    subst hn
    obtain ⟨x, r, hx, hcont⟩ := elements_eq_ok_iff.1 h
    have hlt := (element_advances hx).2
    obtain ⟨u, w, hu, hw, rfl, _⟩ := element_eq_some_iff.1 hx
    rcases hcont with ⟨hr, rfl⟩ | ⟨r', xs', hr, hmore, rfl⟩
    · obtain ⟨v, hv, rfl⟩ := exists_blanks_of_skipBlanks hr
      exact ⟨_, .last hu hw hv, by simp⟩
    · have hlt' := Nat.lt_trans (length_lt_of_skipBlanks_eq_cons hr) hlt
      obtain ⟨v, hv, rfl⟩ := exists_blanks_of_skipBlanks hr
      obtain ⟨w', hw', rfl⟩ := ih _ hlt' hmore rfl
      exact ⟨_, .cons hu hw hv hw', by simp⟩

theorem elements_complete {w : List Char} {xs : List Operand} (h : ElementsText w xs)
    (rest : List Char) : (elements (w ++ ']' :: rest)).result = .ok (xs, rest) := by
  induction h with
  | @last u w v x hu hx hv =>
    refine elements_eq_ok_iff.2 ⟨x, v ++ ']' :: rest, ?_, .inl ⟨skipBlanks_append hv _, rfl⟩⟩
    refine element_eq_some_iff.2 ⟨u, w, hu, hx, by simp, fun _ => ?_⟩
    exact endsWord_append hv fun _ => rfl
  | @cons u w v w' x xs hu hx hv _ ih =>
    refine elements_eq_ok_iff.2 ⟨x, v ++ ',' :: (w' ++ ']' :: rest), ?_,
      .inr ⟨_, xs, skipBlanks_append hv _, ih, rfl⟩⟩
    refine element_eq_some_iff.2 ⟨u, w, hu, hx, by simp, fun _ => ?_⟩
    exact endsWord_append hv fun _ => rfl

/-- Elements begin with something other than the bracket that closes them. -/
theorem skipBlanks_elements_ne {w rest t : List Char} {xs : List Operand}
    (h : ElementsText w xs) : skipBlanks (w ++ rest) ≠ ']' :: t := by
  obtain ⟨u, w, v, x, hu, hx, rfl⟩ :
      ∃ u v v' x, Blanks u ∧ ElementText v x ∧ w = u ++ (v ++ v') := by
    cases h with
    | last hu hx _ => exact ⟨_, _, _, _, hu, hx, rfl⟩
    | cons hu hx _ _ => exact ⟨_, _, _, _, hu, hx, rfl⟩
  intro hskip
  have hopens := endsWord_append_eq_false hx.opens (v ++ rest)
  rw [List.append_assoc, skipBlanks_append hu, List.append_assoc,
    skipBlanks_of_endsWord_eq_false hopens] at hskip
  rw [hskip] at hopens
  cases hopens

theorem list_of_head {s : List Char} (h : (skipBlanks s).head? ≠ some '[') :
    (list s).result = .ok none := by
  unfold list
  split
  · next heq =>
    rw [heq] at h
    exact absurd rfl h
  · rfl

theorem list_eq_some_iff {s rest : List Char} {xs : List Operand} :
    (list s).result = .ok (some (xs, rest)) ↔
      ∃ u w, Blanks u ∧ ListText w xs ∧ s = u ++ (w ++ rest) := by
  constructor
  · intro h
    unfold list at h
    split at h
    · next t ht =>
      obtain ⟨u, hu, rfl⟩ := exists_blanks_of_skipBlanks ht
      split at h
      · next r hr =>
        obtain ⟨v, hv, rfl⟩ := exists_blanks_of_skipBlanks hr
        cases h
        exact ⟨u, _, hu, .empty hv, by simp⟩
      · rw [Logged.result_bind] at h
        split at h
        · cases h
        · next p hp =>
          cases h
          obtain ⟨w, hw, rfl⟩ := elements_sound hp
          exact ⟨u, _, hu, .elements hw, by simp⟩
    · simp at h
  · rintro ⟨u, w, hu, hw, rfl⟩
    rw [list_skipsBlanks hu]
    cases hw with
    | @empty v hv =>
      have hclose : skipBlanks (v ++ ']' :: rest) = ']' :: rest := skipBlanks_append hv _
      simp [list, skipBlanks_cons, hclose, isBlank]
    | @elements w _ hw =>
      simp only [list, List.cons_append, List.append_assoc, List.nil_append, skipBlanks_cons]
      split
      · next hskip =>
        cases hskip
        split
        · next r hr => exact absurd hr (skipBlanks_elements_ne hw)
        · rw [Logged.result_bind, elements_complete hw]
          rfl
      · next hne => exact absurd rfl (hne _)

/-! ### Patterns -/

theorem inFlags_of_endsWord {rest : List Char} (h : endsWord [')'] rest = true) :
    ∀ c ∈ rest.head?, inFlags c = false := by
  intro c hc
  rcases mem_head_of_endsWord h c hc with h | h
  · simp [inFlags, h]
  · obtain rfl : c = ')' := by simpa using h
    rfl

theorem endsWord_dropWhile_inFlags (s : List Char) :
    endsWord [')'] (s.dropWhile inFlags) = true := by
  cases hs : s.dropWhile inFlags with
  | nil => rfl
  | cons c t =>
    have hc := head_dropWhile (p := inFlags) c (by rw [hs]; rfl)
    simp only [endsWord_cons]
    by_cases hb : isBlank c = true
    · simp [hb]
    · simpa [inFlags, hb] using hc

theorem inFlags_of_pattern {flags : List Char} {p : Pattern} (h : p.flags = String.ofList flags) :
    ∀ c ∈ flags, inFlags c = true := by
  intro c hc
  have hmem := p.mem_flags c (by rw [h, String.toList_ofList]; exact hc)
  simp only [List.mem_cons, List.not_mem_nil, or_false] at hmem
  rcases hmem with rfl | rfl | rfl | rfl <;> rfl

theorem regex_of_head {s : List Char} (h : (skipBlanks s).head? ≠ some '/') :
    (regex s).result = .ok none := by
  unfold regex
  split
  · next heq =>
    rw [heq] at h
    exact absurd rfl h
  · rfl

theorem regex_eq_some_iff {s rest : List Char} {p : Pattern} :
    (regex s).result = .ok (some (p, rest)) ↔
      ∃ u w, Blanks u ∧ RegexText true w p ∧ s = u ++ (w ++ rest) ∧
        endsWord [')'] rest = true := by
  constructor
  · intro h
    unfold regex at h
    split at h
    · next t ht =>
      obtain ⟨u, hu, rfl⟩ := exists_blanks_of_skipBlanks ht
      split at h
      · simp [Reading.failAt] at h
      · next source r hsplit =>
        obtain ⟨body, rfl, hb, hend, rfl⟩ := splitSource_sound hsplit
        simp only at h
        split at h
        · simp [Reading.failAt] at h
        · next p hp =>
          cases h
          have hne : body ≠ [] := by
            rintro rfl
            exact p.source_ne_empty (Pattern.ofSource_eq_ok_iff.1 hp).1
          refine ⟨u, _, hu, .slashed hne hb (fun _ => hend) hp, ?_,
            endsWord_dropWhile_inFlags r⟩
          rw [List.cons_append, List.append_assoc, List.cons_append,
            List.takeWhile_append_dropWhile]
    · simp at h
  · rintro ⟨u, w, hu, hw, rfl, hends⟩
    obtain ⟨_, hb, hend, hp⟩ := hw
    next body flags _ =>
    have hflags := inFlags_of_pattern (Pattern.ofSource_eq_ok_iff.1 hp).2
    have hstop := inFlags_of_endsWord hends
    rw [regex_skipsBlanks hu]
    simp only [regex, List.cons_append, List.append_assoc, skipBlanks_cons]
    rw [if_neg (by decide)]
    simp only [splitSource_complete hb (hend rfl), takeWhile_append_stop hflags hstop,
      dropWhile_append_stop hflags hstop, hp]
    rfl

/-! ### Operands -/

/-- Where an operand that does not show its end may be over. -/
def afterOperand : List Char := ['.', ')', ',', ']']

theorem operand_sound {s rest : List Char} {x : Operand}
    (h : (operand s).result = .ok (some (x, rest))) :
    ∃ u w, Blanks u ∧ OperandText w x ∧ s = u ++ (w ++ rest) ∧
      (x.showsEnd = false → endsWord afterOperand rest = true) := by
  rcases orElse_eq_some_iff.1 h with h | ⟨_, h⟩
  · obtain ⟨p, hp, rfl⟩ := map_eq_some_iff.1 h
    obtain ⟨u, w, hu, hw, rfl, hends⟩ := path_sound hp
    exact ⟨u, w, hu, .path hw, rfl, fun _ => endsWord_mono (by simp [afterOperand]) hends⟩
  rcases orElse_eq_some_iff.1 h with h | ⟨_, h⟩
  · obtain ⟨xs, hxs, rfl⟩ := map_eq_some_iff.1 h
    obtain ⟨u, w, hu, hw, rfl⟩ := list_eq_some_iff.1 hxs
    exact ⟨u, w, hu, .list hw, rfl, fun h => by cases h⟩
  rcases orElse_eq_some_iff.1 h with h | ⟨_, h⟩
  · obtain ⟨t, ht, rfl⟩ := map_eq_some_iff.1 h
    obtain ⟨u, w, hu, hw, rfl⟩ := string_eq_some_iff.1 ht
    exact ⟨u, w, hu, .element (.string hw), rfl, fun h => by cases h⟩
  rcases orElse_eq_some_iff.1 h with h | ⟨_, h⟩
  · obtain ⟨d, hd, rfl⟩ := map_eq_some_iff.1 h
    obtain ⟨u, w, hu, hw, rfl, hends⟩ := number_eq_some_iff.1 hd
    exact ⟨u, w, hu, .element (.number hw), rfl,
      fun _ => endsWord_mono (by simp [afterOperand]) hends⟩
  · obtain ⟨_, hn, rfl⟩ := map_eq_some_iff.1 h
    obtain ⟨u, hu, rfl, hends⟩ := null_eq_some_iff.1 hn
    exact ⟨u, _, hu, .element .null, rfl, fun _ => endsWord_mono (by simp [afterOperand]) hends⟩

theorem operand_complete {w rest : List Char} {x : Operand} (h : OperandText w x)
    (hr : x.showsEnd = false → endsWord [')'] rest = true) :
    (operand (w ++ rest)).result = .ok (some (x, rest)) := by
  cases h with
  | path hw => exact orElse_of_some (map_of_some (path_complete hw (hr rfl)))
  | list hw =>
    have hpath : (path (w ++ rest)).result = .ok none := by
      refine path_of_head ?_
      rw [skipBlanks_of_endsWord_eq_false
        (endsWord_append_eq_false (OperandText.list hw).opens rest)]
      cases hw <;> simp
    exact (orElse_of_none (map_of_none hpath)).trans <|
      orElse_of_some (map_of_some (list_eq_some_iff.2 ⟨[], w, blanks_nil, hw, rfl⟩))
  | element hw =>
    have hopens := endsWord_append_eq_false hw.opens rest
    have hhead : ∀ c ∈ ['@', '['], (skipBlanks (w ++ rest)).head? ≠ some c := by
      intro c hc
      rw [skipBlanks_of_endsWord_eq_false hopens]
      exact head?_ne_of_endsWord_eq_false (endsWord_eq_false_mono (by simp) hopens) hc
    have hpath := path_of_head (hhead '@' (by simp))
    have hlist := list_of_head (hhead '[' (by simp))
    refine (orElse_of_none (map_of_none hpath)).trans <|
      (orElse_of_none (map_of_none hlist)).trans ?_
    cases hw with
    | string hw =>
      exact orElse_of_some
        (map_of_some (string_eq_some_iff.2 ⟨[], w, blanks_nil, hw, rfl⟩))
    | number hw =>
      have hend : endsNumber false rest = true := hr rfl
      have hnumber := number_eq_some_iff.2 ⟨[], w, blanks_nil, hw, rfl, hend⟩
      exact (orElse_of_none (map_of_none (string_of_number hw rest))).trans
        (orElse_of_some (map_of_some hnumber))
    | null =>
      have hend : endsWord [',', ']', ')'] rest = true := endsWord_mono (by simp) (hr rfl)
      have hnull := null_eq_some_iff.2 ⟨[], blanks_nil, rfl, hend⟩
      exact (orElse_of_none (map_of_none (string_of_null rest))).trans <|
        (orElse_of_none (map_of_none (number_of_null false rest))).trans (map_of_some hnull)

end Rule
end DocFilter
