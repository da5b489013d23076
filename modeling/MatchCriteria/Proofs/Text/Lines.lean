import MatchCriteria.Text.Lines
import Mathlib.Data.List.Basic

/-!
# Texts written line by line

A text is written line by line when each line is followed by a line feed, or by a carriage
return and a line feed, except that the last one need not be if it is not empty.  However the
lines are ended, they are the lines of the text.
-/

namespace MatchCriteria.Text

/-- The characters can be a line: there is no line feed among them, and they do not end with a
carriage return. -/
def IsLine (line : List Char) : Prop := '\n' ∉ line ∧ line.getLast? ≠ some '\r'

instance (line : List Char) : Decidable (IsLine line) := inferInstanceAs (Decidable (_ ∧ _))

/-- The text in which some lines are written one after the other. -/
inductive Written : List (List Char) → List Char → Prop where
  | nil : Written [] []
  | last {line : List Char} (h : line ≠ []) : Written [line] line
  | feed {line cs : List Char} {lines : List (List Char)} (hs : Written lines cs) :
      Written (line :: lines) (line ++ '\n' :: cs)
  | returnFeed {line cs : List Char} {lines : List (List Char)} (hs : Written lines cs) :
      Written (line :: lines) (line ++ '\r' :: '\n' :: cs)

/-- Characters other than line feeds continue a line. -/
theorem linesAfter_append {line : List Char} (h : '\n' ∉ line) (before cs : List Char) :
  linesAfter before (line ++ cs) = linesAfter (line.reverse ++ before) cs
  := by
  induction line generalizing before with
  | nil => rfl
  | cons c line ih =>
    rw [List.mem_cons, not_or] at h
    rw [List.cons_append, linesAfter, ih h.2, List.reverse_cons, List.append_assoc]
    · rfl
    · intro hc
      cases h.1 hc.symm

/-- A line that ends where it is closed loses nothing but a carriage return. -/
theorem closeLine_reverse {line : List Char} (h : line.getLast? ≠ some '\r') :
  closeLine line.reverse = line
  := by
  rw [closeLine, List.reverse_reverse]
  intro cs hcs
  apply h
  rw [← List.head?_reverse, hcs, List.head?_cons]

/-- The lines of a text are those that it is written in. -/
theorem Written.lines_eq {ls : List (List Char)} {cs : List Char} (h : Written ls cs)
    (hlines : ∀ line ∈ ls, IsLine line) :
  lines cs = ls
  := by
  induction h with
  | nil => rfl
  | @last line hne =>
    obtain ⟨hfeed, -⟩ := hlines line List.mem_cons_self
    have hend := linesAfter_append hfeed [] []
    rw [List.append_nil, List.append_nil] at hend
    rw [lines, hend, linesAfter, if_neg, List.reverse_reverse]
    rwa [List.isEmpty_iff, List.reverse_eq_nil_iff]
  | @feed line cs ls _ ih =>
    obtain ⟨⟨hfeed, hreturn⟩, hlines⟩ := List.forall_mem_cons.mp hlines
    rw [lines, linesAfter_append hfeed, List.append_nil, linesAfter, closeLine_reverse hreturn,
      ← ih hlines, lines]
  | @returnFeed line cs ls _ ih =>
    obtain ⟨⟨hfeed, -⟩, hlines⟩ := List.forall_mem_cons.mp hlines
    -- The carriage return is the last character before the line feed.
    have hclose : closeLine ('\r' :: line.reverse) = line := List.reverse_reverse line
    rw [lines, linesAfter_append hfeed, List.append_nil, linesAfter, linesAfter, hclose,
      ← ih hlines, lines]
    decide

theorem length_linesAfter_le (before cs : List Char) :
  (linesAfter before cs).length ≤ before.length + cs.length
  := by
  induction before, cs using linesAfter.induct with
  | case1 before hempty =>
    rw [linesAfter, if_pos hempty]
    apply Nat.zero_le
  | case2 before hempty =>
    rw [linesAfter, if_neg hempty]
    rw [List.isEmpty_iff] at hempty
    apply List.length_pos_iff.mpr hempty
  | case3 before cs ih =>
    rw [linesAfter, List.length_cons, List.length_cons]
    rw [List.length_nil] at ih
    omega
  | case4 before c cs hc ih =>
    rw [linesAfter, List.length_cons]
    · rw [List.length_cons] at ih
      omega
    · apply hc

/-- A text has at most as many lines as characters. -/
theorem length_lines_le (cs : List Char) :
  (lines cs).length ≤ cs.length
  := by
  have h := length_linesAfter_le [] cs
  rwa [List.length_nil, Nat.zero_add] at h

/-- An empty line in the middle, and one at the end. -/
example : lines "a\r\n\nb\rc\n\n".toList = [['a'], [], ['b', '\r', 'c'], []] := by decide

end MatchCriteria.Text
