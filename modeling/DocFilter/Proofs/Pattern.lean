import DocFilter.Proofs.Grammar
import DocFilter.Query.Reading.Operand

/-!
# Patterns between slashes

The source of a pattern is written with a backslash before each slash.  Reading undoes this up to
the first slash that no backslash precedes, so a source can be written exactly if it does not end in
a backslash.
-/

namespace DocFilter

/-! ### What a pattern is made of -/

namespace Pattern

theorem ofSource_eq_ok_iff {source flags : String} {p : Pattern} :
    ofSource source flags = .ok p ↔ p.source = source ∧ p.flags = flags := by
  constructor
  · intro h
    unfold ofSource at h
    split at h
    · cases h
      exact ⟨rfl, rfl⟩
    · cases h
  · rintro ⟨rfl, rfl⟩
    unfold ofSource
    split
    · next program h =>
      congr 1
      exact ext_source_flags rfl rfl
    · next fault h =>
      rw [p.compiled] at h
      cases h

theorem source_ne_empty (p : Pattern) : p.source ≠ "" := by
  intro h
  have hc := p.compiled
  rw [h] at hc
  cases hc

theorem mem_of_readFlags {f g : Regex.Flags} {letters : List Char}
    (h : readFlags f letters = .ok g) : ∀ c ∈ letters, c ∈ ['i', 'm', 's', 'x'] := by
  fun_induction readFlags f letters with
  | case1 => simp
  | case2 _ _ ih => simpa using ih h
  | case3 _ _ ih => simpa using ih h
  | case4 _ _ ih => simpa using ih h
  | case5 _ _ ih => simpa using ih h
  | case6 => cases h

/-- The flags of a pattern are letters that switch something on. -/
theorem mem_flags (p : Pattern) : ∀ c ∈ p.flags.toList, c ∈ ['i', 'm', 's', 'x'] := by
  have h := p.compiled
  unfold compile at h
  split at h
  · cases h
  · split at h
    · cases h
    · next flags hflags => exact mem_of_readFlags hflags

end Pattern

namespace Grammar

/-! ### Slashes that stand for themselves -/

theorem slashesEscaped_nil : SlashesEscaped [] := by
  intro u v h
  simp at h

theorem slashesEscaped_cons {c : Char} {s : List Char} (hc : c ≠ '/') (hs : SlashesEscaped s) :
    SlashesEscaped (c :: s) := by
  intro u v h
  cases u with
  | nil => exact absurd (List.cons.inj h).1 hc
  | cons d u =>
    have := hs u v (List.cons.inj h).2
    rw [List.getLast?_cons, this]
    rfl

theorem slashesEscaped_escaped {s : List Char} (hs : SlashesEscaped s) :
    SlashesEscaped ('\\' :: '/' :: s) := by
  intro u v h
  match u with
  | [] => simp at h
  | [c] =>
    obtain ⟨rfl, _⟩ := List.cons.inj h
    rfl
  | c :: d :: u =>
    simp only [List.cons_append, List.cons.injEq] at h
    have := hs u v h.2.2
    rw [List.getLast?_cons, List.getLast?_cons, this]
    rfl

theorem SlashesEscaped.of_escaped {s : List Char} (h : SlashesEscaped ('\\' :: '/' :: s)) :
    SlashesEscaped s := by
  rintro u v rfl
  have := h ('\\' :: '/' :: u) v rfl
  rw [List.getLast?_cons, List.getLast?_cons] at this
  cases hu : u.getLast? with
  | none => simp [hu] at this
  | some c => simpa [hu] using this

/-- A first character that escapes nothing is no slash. -/
theorem SlashesEscaped.of_cons {c : Char} {s : List Char} (h : SlashesEscaped (c :: s))
    (hc : ∀ t, c = '\\' → s ≠ '/' :: t) : c ≠ '/' ∧ SlashesEscaped s := by
  constructor
  · rintro rfl
    have := h [] s rfl
    simp at this
  · rintro u v rfl
    have := h (c :: u) v rfl
    rw [List.getLast?_cons] at this
    cases hu : u.getLast? with
    | none =>
      obtain rfl := List.getLast?_eq_none_iff.1 hu
      exact absurd rfl (hc v (by simpa using this))
    | some d => simpa [hu] using this

theorem unescape_cons {c : Char} {s : List Char} (h : ∀ t, c = '\\' → s ≠ '/' :: t) :
    unescape (c :: s) = c :: unescape s := by
  cases s with
  | nil => simp [unescape]
  | cons d s =>
    rw [unescape]
    rintro t rfl hs
    exact h t rfl hs

theorem getLast?_unescape (body : List Char) : (unescape body).getLast? = body.getLast? := by
  fun_induction unescape body with
  | case1 => rfl
  | case2 s ih => simp only [List.getLast?_cons, ih, Option.getD_some]
  | case3 c s _ ih => rw [List.getLast?_cons, List.getLast?_cons, ih]

/-- A source as it is written between slashes. -/
def escape (source : List Char) : List Char :=
  source.flatMap fun c => if c = '/' then ['\\', '/'] else [c]

theorem escape_slash (s : List Char) : escape ('/' :: s) = '\\' :: '/' :: escape s := rfl

theorem escape_cons {c : Char} (hc : c ≠ '/') (s : List Char) :
    escape (c :: s) = c :: escape s := by
  simp [escape, hc]

theorem escape_ne_slash (s t : List Char) : escape s ≠ '/' :: t := by
  cases s with
  | nil => simp [escape]
  | cons c s =>
    by_cases hc : c = '/'
    · rw [hc, escape_slash]
      simp
    · rw [escape_cons hc]
      simp [hc]

theorem slashesEscaped_escape (source : List Char) : SlashesEscaped (escape source) := by
  induction source with
  | nil => exact slashesEscaped_nil
  | cons c s ih =>
    by_cases hc : c = '/'
    · rw [hc, escape_slash]
      exact slashesEscaped_escaped ih
    · rw [escape_cons hc]
      exact slashesEscaped_cons hc ih

theorem unescape_escape (source : List Char) : unescape (escape source) = source := by
  induction source with
  | nil => rfl
  | cons c s ih =>
    by_cases hc : c = '/'
    · rw [hc, escape_slash, unescape, ih]
    · rw [escape_cons hc, unescape_cons fun t _ => escape_ne_slash s t, ih]

/-- A pattern is written as a text that denotes it, unless its source ends in a backslash. -/
theorem regexText_render {p : Pattern} (hend : p.source.toList.getLast? ≠ some '\\') :
    RegexText true p.render p := by
  -- Escaping keeps the last character of the source.
  have hlast := getLast?_unescape (escape p.source.toList)
  rw [unescape_escape] at hlast
  show RegexText true ('/' :: (escape p.source.toList ++ '/' :: p.flags.toList)) p
  refine .slashed ?_ (slashesEscaped_escape _) (fun _ => hlast ▸ hend) ?_
  · intro hnil
    have hsource := unescape_escape p.source.toList
    rw [hnil] at hsource
    exact p.source_ne_empty (String.toList_eq_nil_iff.1 hsource.symm)
  · rw [unescape_escape]
    exact Pattern.ofSource_eq_ok_iff.2 ⟨String.ofList_toList.symm, String.ofList_toList.symm⟩

theorem RegexText.getLast?_source {w : List Char} {p : Pattern} (h : RegexText true w p) :
    p.source.toList.getLast? ≠ some '\\' := by
  obtain ⟨_, _, hend, hp⟩ := h
  rw [(Pattern.ofSource_eq_ok_iff.1 hp).1, String.toList_ofList, getLast?_unescape]
  exact hend rfl

end Grammar

/-! ### Reading a source -/

namespace Rule

open Grammar

theorem splitSource_cons {c : Char} {s : List Char} (h : ∀ t, c = '\\' → s ≠ '/' :: t)
    (hc : c ≠ '/') :
    splitSource (c :: s) = (splitSource s).map fun (source, rest) => (c :: source, rest) := by
  rw [splitSource, if_neg hc]
  rintro t rfl hs
  exact h t rfl hs

theorem splitSource_sound {s source rest : List Char} (h : splitSource s = some (source, rest)) :
    ∃ body, s = body ++ '/' :: rest ∧ SlashesEscaped body ∧ body.getLast? ≠ some '\\' ∧
      source = unescape body := by
  fun_induction splitSource s generalizing source rest with
  | case1 => cases h
  | case2 s ih =>
    simp only [Option.map_eq_some_iff, Prod.mk.injEq, Prod.exists] at h
    obtain ⟨_, _, h, rfl, rfl⟩ := h
    obtain ⟨body, rfl, hb, hend, rfl⟩ := ih h
    refine ⟨'\\' :: '/' :: body, rfl, slashesEscaped_escaped hb, ?_, rfl⟩
    cases hlast : body.getLast? with
    | none => simp [List.getLast?_cons, hlast]
    | some c => simpa [List.getLast?_cons, hlast] using hend
  | case3 s =>
    cases h
    exact ⟨[], rfl, slashesEscaped_nil, by simp, rfl⟩
  | case4 c s hne hc ih =>
    simp only [Option.map_eq_some_iff, Prod.mk.injEq, Prod.exists] at h
    obtain ⟨_, _, h, rfl, rfl⟩ := h
    obtain ⟨body, rfl, hb, hend, rfl⟩ := ih h
    refine ⟨c :: body, rfl, slashesEscaped_cons hc hb, ?_, ?_⟩
    · -- A lone backslash would have escaped the slash after it.
      cases hlast : body.getLast? with
      | none =>
        obtain rfl := List.getLast?_eq_none_iff.1 hlast
        rintro h
        exact hne _ (by simpa using h) rfl
      | some d => simpa [List.getLast?_cons, hlast] using hend
    · refine (unescape_cons ?_).symm
      rintro t hbackslash rfl
      exact hne _ hbackslash rfl

theorem splitSource_complete {body : List Char} (hb : SlashesEscaped body)
    (hend : body.getLast? ≠ some '\\') (rest : List Char) :
    splitSource (body ++ '/' :: rest) = some (unescape body, rest) := by
  fun_induction unescape body with
  | case1 => simp [splitSource]
  | case2 s ih =>
    have hend' : s.getLast? ≠ some '\\' := by
      intro hlast
      simp [List.getLast?_cons, hlast] at hend
    simp [splitSource, ih hb.of_escaped hend']
  | case3 c s hne ih =>
    obtain ⟨hc, hs⟩ := hb.of_cons fun t hbackslash hslash => hne t hbackslash hslash
    have hend' : s.getLast? ≠ some '\\' := by
      intro hlast
      simp [List.getLast?_cons, hlast] at hend
    have hcons : ∀ t, c = '\\' → s ++ '/' :: rest ≠ '/' :: t := by
      rintro t rfl hslash
      cases s with
      | nil => simp at hend
      | cons d s => exact hne s rfl (by rw [(List.cons.inj hslash).1])
    rw [List.cons_append, splitSource_cons hcons hc, ih hs hend']
    rfl

end Rule
end DocFilter
