import Mathlib.Data.List.Basic
import DocFilter.Cursor
import DocFilter.Proofs.Text

/-!
# Where a cursor stands

A cursor that is not past the end of its text stands before what it has not read, and is known by
that: it is where `moveTo` takes it.  The operations of a cursor are followed here by what they leave
to read, and positions in the text by what is left from there on.
-/

namespace DocFilter
namespace Cursor

variable {c : Cursor} {s t w w' delims : List Char} {ch : Char}

/-- Back to the end of the text, for a cursor that is past it. -/
def settle (c : Cursor) : Cursor := c.returnTo c.position

/-- Whether the cursor is in its text or at the end of it. -/
def Inside (c : Cursor) : Prop := c.position ≤ c.text.length

instance (c : Cursor) : Decidable c.Inside := inferInstanceAs (Decidable (_ ≤ _))

theorem unread_suffix (c : Cursor) : c.unread <:+ c.text := List.drop_suffix _ _

theorem skipBlanks_unread_suffix (c : Cursor) : DocFilter.skipBlanks c.unread <:+ c.text :=
  (skipBlanks_suffix _).trans c.unread_suffix

theorem length_unread (c : Cursor) : c.unread.length = c.text.length - c.position :=
  List.length_drop

theorem length_consumed (hc : c.Inside) : c.consumed.length = c.position :=
  List.length_take_of_le hc

/-- Where something is left to read the cursor is before the end. -/
theorem position_lt_of_unread (h : c.unread = ch :: s) : c.position < c.text.length := by
  have hlen := c.length_unread
  rw [h, List.length_cons] at hlen
  omega

/-! ### Moving to what is left -/

theorem position_moveTo (c : Cursor) (s : List Char) :
    (c.moveTo s).position = c.text.length - s.length := rfl

theorem unread_moveTo (h : s <:+ c.text) : (c.moveTo s).unread = s := by
  obtain ⟨before, hbefore⟩ := h
  have hlen := congrArg List.length hbefore
  rw [List.length_append] at hlen
  show c.text.drop (c.text.length - s.length) = s
  rw [← hlen, Nat.add_sub_cancel, ← hbefore, List.drop_left]

theorem moveTo_unread (c : Cursor) : c.moveTo c.unread = c.settle := by
  have hlen := c.length_unread
  unfold moveTo settle returnTo
  congr 1
  omega

theorem settle_of_inside (h : c.Inside) : c.settle = c := by
  show ({ c with position := min c.position c.text.length } : Cursor) = c
  rw [Nat.min_eq_left h]

/-- To move to what comes after a token is to move on by its length. -/
theorem moveTo_of_append (hc : c.Inside) (h : c.unread = w ++ s) :
    c.moveTo s = { c with position := c.position + w.length } := by
  have hinside : c.position ≤ c.text.length := hc
  have hlength := c.length_unread
  rw [h, List.length_append] at hlength
  have hposition : c.text.length - s.length = c.position + w.length := by omega
  rw [moveTo, hposition]

/-- The text from where the cursor stands is what it has not read. -/
theorem fragmentFrom_position (h : s <:+ c.text) :
    c.fragmentFrom (c.moveTo s).position = s := by
  rw [fragmentFrom, slice, List.take_length]
  exact unread_moveTo h

theorem slice_of_append (h : c.unread = w ++ s) :
    c.slice c.position (c.position + w.length) = w := by
  rw [slice, List.drop_take, Nat.add_sub_cancel_left]
  show c.unread.take w.length = w
  rw [h, List.take_left]

theorem unread_of_append (h : c.unread = w ++ s) :
    ({ c with position := c.position + w.length } : Cursor).unread = s := by
  show c.text.drop (c.position + w.length) = s
  rw [← List.drop_drop]
  show c.unread.drop w.length = s
  rw [h, List.drop_left]

/-- What lies between two positions is what was read on the way. -/
theorem slice_moveTo (h : w ++ s <:+ c.text) :
    c.slice (c.moveTo (w ++ s)).position (c.moveTo s).position = w := by
  obtain ⟨before, hbefore⟩ := h
  have hlen := congrArg List.length hbefore
  simp only [List.length_append] at hlen
  have hlo : c.text.length - (w ++ s).length = before.length := by
    rw [List.length_append]
    omega
  have hhi : c.text.length - s.length = (before ++ w).length := by
    rw [List.length_append]
    omega
  rw [position_moveTo, position_moveTo, slice, hlo, hhi, ← hbefore, ← List.append_assoc,
    List.take_left, List.drop_left]

/-- Two places are at one position only if they are the same. -/
theorem position_moveTo_eq_iff (hs : s <:+ c.text) (ht : t <:+ c.text) :
    (c.moveTo s).position = (c.moveTo t).position ↔ s = t := by
  refine ⟨fun h => ?_, fun h => h ▸ rfl⟩
  have hunread : (c.moveTo s).unread = (c.moveTo t).unread := congrArg c.text.drop h
  rwa [unread_moveTo hs, unread_moveTo ht] at hunread

/-- The position after a character. -/
theorem position_moveTo_cons (h : ch :: s <:+ c.text) :
    (c.moveTo (ch :: s)).position + 1 = (c.moveTo s).position := by
  have hlen := h.length_le
  rw [List.length_cons] at hlen
  simp only [position_moveTo, List.length_cons]
  omega

/-! ### Steps -/

theorem read_of_nil (h : c.unread = []) : c.read = (none, c) := by
  rw [read, peek?, h]
  rfl

theorem read_of_cons (h : c.unread = ch :: s) : c.read = (some ch, c.moveTo s) := by
  have hlt := position_lt_of_unread h
  have hlen := c.length_unread
  rw [h, List.length_cons] at hlen
  have hposition : c.position + 1 = c.text.length - s.length := by omega
  rw [read, peek?, h, hposition]
  rfl

theorem length_unread_read_lt (h : c.unread = ch :: s) :
    c.read.2.unread.length < c.unread.length := by
  have hsuffix : s <:+ c.text := (List.suffix_cons ch s).trans (h ▸ c.unread_suffix)
  rw [read_of_cons h, unread_moveTo hsuffix, h]
  exact Nat.lt_succ_self _

/-- To move past the run of characters of one kind that comes next is to move on by its length. -/
theorem moveTo_dropWhile (hc : c.Inside) (kind : Char → Bool) :
    c.moveTo (c.unread.dropWhile kind) =
      { c with position := c.position + (c.unread.takeWhile kind).length } :=
  moveTo_of_append hc List.takeWhile_append_dropWhile.symm

theorem skipBlanks_eq (hc : c.Inside) :
    c.skipBlanks = { c with position := c.position + (c.unread.takeWhile isBlank).length } :=
  moveTo_dropWhile hc isBlank

theorem readUntil_eq (hc : c.Inside) (stop : Char) :
    (c.readUntil stop).2 =
      { c with position := c.position + (c.unread.takeWhile (· != stop)).length } :=
  moveTo_dropWhile hc (· != stop)

/-- A character is found if it is the one before which the cursor then stands. -/
theorem readUntil_eq_true_iff (c : Cursor) (stop : Char) :
    (c.readUntil stop).1 = true ↔ (c.readUntil stop).2.peek? = some stop := by
  have hsuffix : c.unread.dropWhile (· != stop) <:+ c.text :=
    (List.dropWhile_suffix _).trans c.unread_suffix
  have hstop := head_dropWhile (p := (· != stop)) (s := c.unread)
  show (!(c.unread.dropWhile (· != stop)).isEmpty) = true ↔
    (c.moveTo (c.unread.dropWhile (· != stop))).unread.head? = some stop
  rw [unread_moveTo hsuffix]
  cases hrest : c.unread.dropWhile (· != stop) with
  | nil => simp
  | cons ch rest =>
    have hch : (ch != stop) = false := hstop ch (by rw [hrest]; rfl)
    simpa using hch

theorem readToken_of_head (h : c.unread.head? ≠ some ch) : c.readToken [ch] = (false, c) := by
  rw [readToken, taking, afterToken?_of_head h]

theorem afterWord?_of_readWord (h : (c.readWord w delims).1 = true) :
    ∃ rest, afterWord? delims w c.unread = some rest := by
  unfold readWord taking at h
  split at h
  · next rest hrest => exact ⟨rest, hrest⟩
  · cases h

/-- At most one word comes next to a cursor. -/
theorem readWord_unique (hw : IsWord delims w) (hw' : IsWord delims w')
    (h : (c.readWord w delims).1 = true) (h' : (c.readWord w' delims).1 = true) : w = w' := by
  obtain ⟨_, hrest⟩ := afterWord?_of_readWord h
  obtain ⟨_, hrest'⟩ := afterWord?_of_readWord h'
  exact (afterWord?_unique hw hw' hrest hrest').1

end Cursor
end DocFilter
