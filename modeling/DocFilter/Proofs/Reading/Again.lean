import DocFilter.Proofs.Reading.OpenGroups
import DocFilter.Query.Reader
import Mathlib.Order.Nat

/-!
# Reading again

A reader may be asked for a formula any number of times, and goes on each time from where the time
before left it.  It only ever goes forward, in the text and in the count of open groups, and it
stays inside the text and at most at the limit of groups.  Once a formula was read the text is used
up, and all that comes after fails at its end.  Once a read has moved nothing, neither will any
later one, and the answer stays the same.  The position last remembered as a start has no part in
any of this.
-/

namespace DocFilter

open Reading GroupStep

namespace Demand

/-! ### At the end of a text -/

/-- Where nothing is left to read a clause is missing. -/
theorem whole_nil (levels : Nat) :
    (whole levels []).result = .error ⟨.clauseExpected, [], [], 0⟩ := by
  obtain ⟨advances, h⟩ := formula_eq levels
  rw [whole, h, clauses]
  rfl

theorem leftOpen_whole (levels : Nat) (s : List Char) :
    (whole levels s).leftOpen = (formula levels s).leftOpen := by
  refine leftOpen_bind fun found _ => ?_
  obtain ⟨f, rest⟩ := found
  simp only
  split
  · rfl
  · split
    · rfl
    · rfl

end Demand

namespace Reader

variable {r r' : Reader} {text : List Char}

/-- Whether the reader is in the text, at or before its end, with no more groups open than may be.
-/
structure In (text : List Char) (r : Reader) : Prop where
  text_eq : r.cursor.text = text
  position_le : r.cursor.position ≤ text.length
  depth_le : r.depth ≤ Demand.maxGroups

/-- Whether two readers differ at most in the position remembered as a start. -/
structure SamePlace (r r' : Reader) : Prop where
  text_eq : r.cursor.text = r'.cursor.text
  position_eq : r.cursor.position = r'.cursor.position
  depth_eq : r.depth = r'.depth

/-- The steps of the count of open groups in one read. -/
def groupSteps (r : Reader) : List GroupStep :=
  Demand.formulaSteps (Demand.maxGroups - r.depth) r.cursor.unread

/-- The reader with another position remembered as a start. -/
def startingAt (r : Reader) (start : Nat) : Reader :=
  { r with cursor := { r.cursor with start := start } }

/-- The reader after `n` reads, where `starts` says which start is remembered after each. -/
def afterReads (starts : Nat → Nat) (r : Reader) : (n : Nat) → Reader
  | 0 => r
  | n + 1 => (afterReads starts r n).read.2.startingAt (starts n)

theorem In.ofText (text : List Char) : (Reader.ofText text).In text :=
  ⟨rfl, Nat.zero_le _, Nat.zero_le _⟩

theorem SamePlace.refl (r : Reader) : SamePlace r r := ⟨rfl, rfl, rfl⟩

theorem SamePlace.trans {r'' : Reader} (h : SamePlace r r') (h' : SamePlace r' r'') :
    SamePlace r r'' :=
  ⟨h.text_eq.trans h'.text_eq, h.position_eq.trans h'.position_eq, h.depth_eq.trans h'.depth_eq⟩

theorem samePlace_startingAt (r : Reader) (start : Nat) : SamePlace (r.startingAt start) r :=
  ⟨rfl, rfl, rfl⟩

theorem In.of_samePlace (h : r.In text) (hplace : SamePlace r' r) : r'.In text :=
  ⟨hplace.text_eq.trans h.text_eq, hplace.position_eq ▸ h.position_le,
    hplace.depth_eq ▸ h.depth_le⟩

theorem SamePlace.unread_eq (h : SamePlace r r') : r.cursor.unread = r'.cursor.unread := by
  rw [Cursor.unread, Cursor.unread, h.text_eq, h.position_eq]

/-! ### One read -/

theorem after_of_ok {x : Reading Formula} {f : Formula} (h : x.result = .ok f) :
    r.after x = { r with cursor := r.cursor.moveTo [] } := by
  rw [after, h]

theorem after_of_error {x : Reading Formula} {f : Failure} (h : x.result = .error f) :
    r.after x = ⟨r.cursor.moveTo f.stop, r.depth + f.openGroups⟩ := by
  rw [after, h]

theorem depth_read (r : Reader) : r.read.2.depth = r.depth + r.outcome.leftOpen := by
  show (r.after r.outcome).depth = _
  cases h : r.outcome.result with
  | ok f => rw [after_of_ok h, leftOpen_of_ok h, Nat.add_zero]
  | error f => rw [after_of_error h, leftOpen_of_error h]

/-- The count of open groups is what its steps make it. -/
theorem countAll?_groupSteps (r : Reader) :
    countAll? r.depth r.groupSteps = some r.read.2.depth := by
  rw [depth_read, outcome, Demand.leftOpen_whole]
  exact Demand.counts_formulaSteps _ r.cursor.unread r.depth

theorem text_read (r : Reader) : r.read.2.cursor.text = r.cursor.text := by
  show (r.after r.outcome).cursor.text = _
  cases h : r.outcome.result with
  | ok f => rw [after_of_ok h]; rfl
  | error f => rw [after_of_error h]; rfl

/-- Reading goes forward, and where it stops is still in the text. -/
theorem In.position_read (h : r.In text) :
    r.cursor.position ≤ r.read.2.cursor.position ∧ r.read.2.cursor.position ≤ text.length := by
  obtain ⟨rfl, hposition, _⟩ := h
  show _ ≤ (r.after r.outcome).cursor.position ∧ (r.after r.outcome).cursor.position ≤ _
  cases hresult : r.outcome.result with
  | ok f =>
    rw [after_of_ok hresult]
    exact ⟨hposition, Nat.le_refl _⟩
  | error f =>
    rw [after_of_error hresult]
    -- What is left where it stops is a part of what was left before.
    have hstop := (Demand.whole_failsIn _ _ f hresult).2.1.length_le
    rw [Cursor.unread, List.length_drop] at hstop
    show _ ≤ r.cursor.text.length - f.stop.length ∧ r.cursor.text.length - f.stop.length ≤ _
    omega

theorem In.depth_read (h : r.In text) :
    r.depth ≤ r.read.2.depth ∧ r.read.2.depth ≤ Demand.maxGroups := by
  have hdepth := h.depth_le
  have hopen := leftOpen_of_failsIn
    (Demand.whole_failsIn (Demand.maxGroups - r.depth) r.cursor.unread)
  rw [Reader.depth_read, outcome]
  omega

theorem In.read (h : r.In text) : r.read.2.In text :=
  ⟨(text_read r).trans h.text_eq, h.position_read.2, h.depth_read.2⟩

theorem SamePlace.moveTo_position (h : SamePlace r r') (rest : List Char) :
    (r.cursor.moveTo rest).position = (r'.cursor.moveTo rest).position := by
  show r.cursor.text.length - _ = r'.cursor.text.length - _
  rw [h.text_eq]

theorem SamePlace.outcome_eq (h : SamePlace r r') : r.outcome = r'.outcome := by
  rw [outcome, outcome, h.depth_eq, h.unread_eq]

theorem SamePlace.after (h : SamePlace r r') (x : Reading Formula) :
    SamePlace (r.after x) (r'.after x) := by
  cases hx : x.result with
  | ok f =>
    rw [after_of_ok hx, after_of_ok hx]
    exact ⟨h.text_eq, h.moveTo_position [], h.depth_eq⟩
  | error f =>
    rw [after_of_error hx, after_of_error hx]
    exact ⟨h.text_eq, h.moveTo_position f.stop, congrArg (· + f.openGroups) h.depth_eq⟩

/-- The position remembered as a start has no part in what is read. -/
theorem SamePlace.read (h : SamePlace r r') :
    r.read.1 = r'.read.1 ∧ SamePlace r.read.2 r'.read.2 := by
  constructor
  · show r.outcome.mapReason _ = r'.outcome.mapReason _
    rw [h.outcome_eq, h.text_eq]
  · show SamePlace (r.after r.outcome) (r'.after r'.outcome)
    rw [h.outcome_eq]
    exact h.after _

/-- At the end of the text a clause is missing, and the reader stays there. -/
theorem read_of_unread_nil (h : r.cursor.unread = []) :
    r.read.1.result = .error ⟨.clauseExpected, r.cursor.text.length, []⟩ ∧
      r.read.2.cursor.unread = [] := by
  have hresult : r.outcome.result = .error ⟨.clauseExpected, [], [], 0⟩ := by
    rw [outcome, h, Demand.whole_nil]
  constructor
  · show (r.outcome.mapReason _).result = _
    rw [Logged.result_mapReason, hresult]
    rfl
  · show (r.after r.outcome).cursor.unread = []
    rw [after_of_error hresult]
    exact List.drop_length

theorem unread_read_of_ok {f : Formula} (h : r.read.1.result = .ok f) :
    r.read.2.cursor.unread = [] ∧ r.read.2.depth = r.depth := by
  have hresult : r.outcome.result = .ok f := Logged.result_mapReason_eq_ok_iff.1 h
  show (r.after r.outcome).cursor.unread = [] ∧ (r.after r.outcome).depth = r.depth
  rw [after_of_ok hresult]
  exact ⟨List.drop_length, rfl⟩

/-! ### Many reads -/

section Runs

variable {starts : Nat → Nat} {n m : Nat}

theorem samePlace_afterReads_succ (starts : Nat → Nat) (r : Reader) (n : Nat) :
    SamePlace (r.afterReads starts (n + 1)) (r.afterReads starts n).read.2 :=
  samePlace_startingAt _ _

theorem afterReads_read (starts : Nat → Nat) (r : Reader) (n : Nat) :
    SamePlace (r.read.2.afterReads starts n) (r.afterReads starts (n + 1)) := by
  induction n with
  | zero => exact ⟨rfl, rfl, rfl⟩
  | succ n ih => exact ⟨ih.read.2.text_eq, ih.read.2.position_eq, ih.read.2.depth_eq⟩

/-- The answers of reading `n` times in a row are those of the readers on the way. -/
theorem readTimes_eq (starts : Nat → Nat) (r : Reader) (n : Nat) :
    readTimes n r = (List.range n).map fun k => (r.afterReads starts k).read.1 := by
  induction n generalizing r with
  | zero => rfl
  | succ n ih =>
    rw [readTimes, ih, List.range_succ_eq_map, List.map_cons, List.map_map]
    refine congrArg (_ :: ·) (List.map_congr_left fun k _ => ?_)
    exact (afterReads_read starts r k).read.1

theorem In.afterReads (h : r.In text) (starts : Nat → Nat) (n : Nat) :
    (r.afterReads starts n).In text := by
  induction n with
  | zero => exact h
  | succ n ih => exact ih.read.of_samePlace (samePlace_afterReads_succ starts r n)

/-- Where all of the text is used up it stays so. -/
theorem unread_afterReads_of_nil (h : (r.afterReads starts n).read.2.cursor.unread = [])
    (hlt : n < m) : (r.afterReads starts m).cursor.unread = [] := by
  induction m, hlt using Nat.le_induction with
  | base => exact (samePlace_afterReads_succ starts r n).unread_eq.trans h
  | succ m _ ih =>
    exact (samePlace_afterReads_succ starts r m).unread_eq.trans (read_of_unread_nil ih).2

/-- A reader that a read does not move is not moved by any later one. -/
theorem samePlace_afterReads_of_le
    (h : SamePlace (r.afterReads starts n).read.2 (r.afterReads starts n)) (hle : n ≤ m) :
    SamePlace (r.afterReads starts m) (r.afterReads starts n) := by
  induction m, hle using Nat.le_induction with
  | base => exact SamePlace.refl _
  | succ m _ ih => exact ((samePlace_afterReads_succ starts r m).trans ih.read.2).trans h

/-- After a formula was read, a clause is missing at the end of the text. -/
theorem read_afterReads_of_ok (h : r.In text) {f : Formula}
    (hread : (r.afterReads starts n).read.1.result = .ok f) (hlt : n < m) :
    (r.afterReads starts m).read.1.result = .error ⟨.clauseExpected, text.length, []⟩ := by
  rw [(read_of_unread_nil (unread_afterReads_of_nil (unread_read_of_ok hread).1 hlt)).1,
    (h.afterReads starts m).text_eq]

/-- However often a reader is asked, and whatever starts it remembers on the way.  Each read stays
inside the text and at most at the limit of groups, goes back in neither, and makes only steps of
the count of open groups that can be made.  If it reads a formula it leaves no group open, it is the
only one to do so, and all later ones fail at the end of the text.  If it moves nothing all later
ones give the same answer. -/
theorem read_again (text : List Char) (starts : Nat → Nat) (n : Nat) :
    let reader := (ofText text).afterReads starts
    let r := reader n
    let r' := r.read.2
    readTimes n (ofText text) = ((List.range n).map fun k => (reader k).read.1) ∧
    (r'.cursor.text = text ∧ r'.cursor.position ≤ text.length ∧ r'.depth ≤ 64) ∧
    (r.cursor.position ≤ r'.cursor.position ∧ r.depth ≤ r'.depth ∧
      countAll? r.depth r.groupSteps = some r'.depth) ∧
    (∀ f, r.read.1.result = .ok f → r'.depth = r.depth ∧
      (∀ m g, (reader m).read.1.result = .ok g → m = n) ∧
      ∀ m, n < m → ∃ e, (reader m).read.1.result = .error e ∧
        e.message = "Failed to parse query" ∧ e.position = text.length ∧ e.fragment = []) ∧
    (r'.cursor.position = r.cursor.position → r'.depth = r.depth →
      ∀ m, n ≤ m → (reader m).read.1 = r.read.1) := by
  intro reader r r'
  have hstart := In.ofText text
  have hr : r.In text := hstart.afterReads starts n
  have hr' : r'.In text := hr.read
  refine ⟨readTimes_eq starts _ n, ⟨hr'.text_eq, hr'.position_le, hr'.depth_le⟩,
    ⟨hr.position_read.1, hr.depth_read.1, countAll?_groupSteps r⟩, fun f hf => ?_,
    fun hposition hdepth m hm => ?_⟩
  · refine ⟨(unread_read_of_ok hf).2, fun m g hg => ?_, fun m hm => ?_⟩
    · -- Of two reads that both succeed neither comes before the other.
      rcases Nat.lt_trichotomy m n with hlt | heq | hlt
      · cases hf.symm.trans (read_afterReads_of_ok hstart hg hlt)
      · exact heq
      · cases hg.symm.trans (read_afterReads_of_ok hstart hf hlt)
    · exact ⟨_, read_afterReads_of_ok hstart hf hm, rfl, rfl, rfl⟩
  · have hunmoved : SamePlace r' r := ⟨text_read r, hposition, hdepth⟩
    exact (samePlace_afterReads_of_le hunmoved hm).read.1

end Runs

end Reader
end DocFilter
