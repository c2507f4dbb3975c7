import Mathlib.Data.List.Nodup
import DocFilter.Proofs.Action.Formula
import DocFilter.Proofs.Reading.Predicate

/-!
# Keywords may be tried in any order

Some operators begin like others, as `<=` does like `<`, and the shorter one is tried first.  It is
not taken for the longer one because a keyword is a word of its own, which goes up to where a word
may end.  So at most one keyword comes next in a text, whatever follows it there.  In whichever
order the keywords are tried the same one is found and the reader ends in the same place, and where
an operator comes next no connective does.
-/

namespace DocFilter

/-- Every operator, and every way to write a connective. -/
def keywords : List String :=
  Operator.all.map Operator.token ++ Connective.spellings.map Prod.fst

theorem keywords_nodup : keywords.Nodup := by decide

theorem keywords_isWord : ∀ word ∈ keywords, IsWord [')'] word.toList := by decide

/-- Of different words at most one comes next to a cursor. -/
theorem Cursor.countP_readWord_le_one {delims : List Char} {words : List String}
    (hn : words.Nodup) (hw : ∀ word ∈ words, IsWord delims word.toList) (c : Cursor) :
    words.countP (fun word => (c.readWord word.toList delims).1) ≤ 1 := by
  rcases Nat.eq_zero_or_pos (words.countP fun word => (c.readWord word.toList delims).1) with
    hzero | hpos
  · omega
  · -- Every word that comes next is the one that does, which is in the list once.
    obtain ⟨word, hmem, hword⟩ := List.countP_pos_iff.1 hpos
    have hsame : ∀ word' ∈ words, (c.readWord word'.toList delims).1 = true →
        (word' == word) = true := by
      intro word' hmem' hword'
      have heq := readWord_unique (hw word' hmem') (hw word hmem) hword' hword
      exact beq_iff_eq.2 (String.toList_injective heq)
    calc words.countP (fun word => (c.readWord word.toList delims).1)
        ≤ words.count word := List.countP_mono_left hsame
      _ ≤ 1 := List.nodup_iff_count_le_one.1 hn word

namespace Action

variable {α : Type} {r : Reader} {s : List Char}

/-- The operator that comes next after any blanks, where `ops` are tried one after the other. -/
def operatorAmong (ops : List Operator) : Action (Option Operator) := do
  let mark ← position
  skipBlanks
  match ← firstWord (ops.map fun op => (op.token, op)) with
  | some op => pure (some op)
  | none => nothing mark

/-- The connective that comes next after any blanks, where `spellings` are tried one after the
other. -/
def connectiveAmong (spellings : List (String × Connective)) : Action (Option Connective) := do
  skipBlanks
  if (← peek?).isNone then pure none else firstWord spellings

theorem operatorAmong_all : operatorAmong Operator.all = operator := rfl

theorem connectiveAmong_spellings : connectiveAmong Connective.spellings = connective := rfl

/-- Different words are found in any order. -/
theorem firstWord_eq_of_perm {words words' : List (String × α)} (hp : words.Perm words')
    (hw : ∀ entry ∈ words, IsWord [')'] entry.1.toList)
    (hinj : ∀ entry ∈ words, ∀ entry' ∈ words, entry.1.toList = entry'.1.toList → entry = entry')
    (hs : s <:+ r.cursor.text) :
    firstWord words (r.moveTo s) = firstWord words' (r.moveTo s) := by
  rw [firstWord_moveTo words hs, firstWord_moveTo words' hs]
  congr 1
  apply findSome?_eq_of_perm hp
  intro entry hmem entry' hmem' found found' h h'
  obtain ⟨rest, hrest, rfl⟩ := Option.map_eq_some_iff.1 h
  obtain ⟨rest', hrest', rfl⟩ := Option.map_eq_some_iff.1 h'
  obtain ⟨hword, rfl⟩ := afterWord?_unique (hw entry hmem) (hw entry' hmem') hrest hrest'
  rw [hinj entry hmem entry' hmem' hword]

theorem operatorAmong_eq_of_perm {ops ops' : List Operator} (hops : ops.Perm ops') (r : Reader) :
    operatorAmong ops r = operatorAmong ops' r := by
  rw [operatorAmong, operatorAmong, position_bind, position_bind, skipBlanks_bind, skipBlanks_bind]
  apply bind_congr_at
  refine firstWord_eq_of_perm (hops.map _) ?_ ?_ r.cursor.skipBlanks_unread_suffix
  · intro entry hmem
    obtain ⟨op, _, rfl⟩ := List.mem_map.1 hmem
    exact op.token_isWord
  · intro entry hmem entry' hmem' htoken
    obtain ⟨op, _, rfl⟩ := List.mem_map.1 hmem
    obtain ⟨op', _, rfl⟩ := List.mem_map.1 hmem'
    rw [Operator.token_injective htoken]

theorem connectiveAmong_eq_of_perm {words : List (String × Connective)}
    (hwords : words.Perm Connective.spellings) (r : Reader) :
    connectiveAmong words r = connectiveAmong Connective.spellings r := by
  rw [connectiveAmong, connectiveAmong, skipBlanks_bind, skipBlanks_bind]
  have hs := r.cursor.skipBlanks_unread_suffix
  rw [peek?_bind _ hs, peek?_bind _ hs]
  split
  · rfl
  · symm
    apply firstWord_eq_of_perm hwords.symm
    · exact fun _ => Connective.spelling_isWord
    · exact Connective.spelling_injective
    · exact hs

theorem operator_or_connective_none (r : Reader) :
    (operator r).1.result = .ok none ∨ (connective r).1.result = .ok none := by
  rcases Rule.operator?_or_connective?_eq_none r.cursor.unread with hop | hnext
  · refine .inl ?_
    rw [operator_does r, Rule.perform_of_none (congrArg pure hop)]
    rfl
  · refine .inr ?_
    rw [connective_eq, hnext]
    rfl

/-- Wherever the reader stands at most one keyword comes next; an operator and a connective are read
alike in whichever order they are tried, which is as their rules say; and not both are there. -/
theorem keywords_in_any_order (r : Reader) {ops : List Operator}
    {words : List (String × Connective)} (hops : ops.Perm Operator.all)
    (hwords : words.Perm Connective.spellings) :
    keywords.countP (fun word => (r.cursor.readWord word.toList [')']).1) ≤ 1 ∧
    (operatorAmong ops r = operator r ∧
      operator r = r.perform ((found Rule.operator?).demand r.cursor.unread)) ∧
    (connectiveAmong words r = connective r ∧
      connective r = wordOutcome r (DocFilter.skipBlanks r.cursor.unread)
        (Rule.connective? (DocFilter.skipBlanks r.cursor.unread))) ∧
    ((operator r).1.result = .ok none ∨ (connective r).1.result = .ok none) := by
  refine ⟨?_, ⟨?_, operator_does r⟩, ⟨?_, connective_eq r⟩, operator_or_connective_none r⟩
  · exact Cursor.countP_readWord_le_one keywords_nodup keywords_isWord r.cursor
  · rw [← operatorAmong_all]
    exact operatorAmong_eq_of_perm hops r
  · rw [← connectiveAmong_spellings]
    exact connectiveAmong_eq_of_perm hwords r

/-- Backwards `<=` is tried before `<`, and it is found in either order. -/
theorem keywords_in_any_order_of_reverse :
    let r : Reader := ⟨⟨"@.a <= 1".toList, 3, 0⟩, 0⟩
    (Operator.all.reverse.Perm Operator.all ∧
      Connective.spellings.reverse.Perm Connective.spellings) ∧
    operatorAmong Operator.all.reverse r = operator r ∧
    connectiveAmong Connective.spellings.reverse r = connective r ∧
    (operator r).1.result = .ok (some .lessEqual) ∧ (operator r).2.cursor.position = 6 ∧
    (connective r).1.result = .ok none := by
  have hops := List.reverse_perm Operator.all
  have hwords := List.reverse_perm Connective.spellings
  obtain ⟨_, ⟨hamong, hop⟩, ⟨hamong', hnext⟩, _⟩ :=
    keywords_in_any_order ⟨⟨"@.a <= 1".toList, 3, 0⟩, 0⟩ hops hwords
  refine ⟨⟨hops, hwords⟩, hamong, hamong', ?_, ?_, ?_⟩
  · rw [hop]
    rfl
  · rw [hop]
    rfl
  · rw [hnext]
    rfl

end Action
end DocFilter
