import MatchCriteria.Proofs.Text.Deletion
import MatchCriteria.Report.Text

/-!
# Lines of reports

The colours of a report are sequences that can be deleted again: what is left is what is left of
the report without colours.  Without colours a report is its lines one after the other, and each
line is a marker, where all outcomes are listed, and the observation or a placeholder for it.
-/

namespace MatchCriteria.Report

open Text (Ended delete delete_append delete_flatMap)

/-! ### Colours -/

/-- The sequences by which the parts of a report are styled. -/
def sequences : List (List Char) := [0, 1, 2, 31, 32].map Text.escapeSequence

example : sequences.map String.ofList
    = ["\x1b[0m", "\x1b[1m", "\x1b[2m", "\x1b[31m", "\x1b[32m"] := by
  decide

theorem nil_notMem_sequences :
  [] ∉ sequences
  := by
  decide

/-- Neither the blank behind a marker nor the end of a line is a part of a sequence. -/
theorem ended_concat (cs : List Char) {c : Char} (hc : c = ' ' ∨ c = '\n') :
  Ended sequences (cs ++ [c])
  := by
  have hsequences : ∀ part ∈ sequences, ' ' ∉ part ∧ '\n' ∉ part := by
    decide
  intro d hd part hpart
  rw [List.getLast?_concat] at hd
  cases hd
  rcases hc with rfl | rfl
  · apply (hsequences part hpart).1
  · apply (hsequences part hpart).2

theorem ended_line (colour all : Bool) (o : Outcome) :
  Ended sequences (line colour all o)
  := by
  unfold line
  split
  · apply ended_concat _ (Or.inr rfl)
  · split
    · apply ended_concat _ (Or.inr rfl)
    · nofun

theorem delete_marker (matched : Bool) :
  delete sequences (marker true matched) = delete sequences (marker false matched)
  := by
  cases matched with
  | true => decide
  | false => decide

theorem delete_shown (observation : String) :
  delete sequences (shown true observation ++ ['\n'])
    = delete sequences (shown false observation ++ ['\n'])
  := by
  unfold shown
  split
  · decide
  · rfl

/-- Without its sequences a line with colours is what the line without colours is. -/
theorem delete_line (all : Bool) (o : Outcome) :
  delete sequences (line true all o) = delete sequences (line false all o)
  := by
  have hmarker (colour : Bool) : Ended sequences (marker colour o.matched) :=
    ended_concat _ (Or.inl rfl)
  unfold line
  split
  · rw [List.append_assoc, List.append_assoc, delete_append nil_notMem_sequences (hmarker true),
      delete_append nil_notMem_sequences (hmarker false), delete_marker, delete_shown]
  · split
    · apply delete_shown
    · rfl

/-- Without its sequences a report is the same with colours and without. -/
theorem delete_text (colour all : Bool) (outcomes : List Outcome) :
  delete sequences (text colour all outcomes).toList
    = delete sequences (text false all outcomes).toList
  := by
  cases colour with
  | false => rfl
  | true =>
    rw [text, text, String.toList_ofList, String.toList_ofList,
      delete_flatMap nil_notMem_sequences (ended_line true all),
      delete_flatMap nil_notMem_sequences (ended_line false all)]
    congr 1
    funext o
    apply delete_line

/-! ### Lines -/

/-- What is listed for an observation. -/
def listed (observation : String) : String := if observation = "" then "(none)" else observation

/-- The marker of an outcome, with the blank behind it. -/
def marked (matched : Bool) : String := if matched then "MATCH " else "MISS  "

theorem shown_eq (observation : String) :
  shown false observation = (listed observation).toList
  := by
  unfold shown listed
  simp only [List.isEmpty_iff, String.toList_eq_nil_iff]
  split <;> rfl

theorem marker_eq (matched : Bool) :
  marker false matched = (marked matched).toList
  := by
  cases matched <;> rfl

/-- The lines of a report without colours: one with a marker for each outcome, or one for each
outcome that matched. -/
def lines (all : Bool) (outcomes : List Outcome) : List String :=
  if all then outcomes.map fun o => marked o.matched ++ listed o.observation ++ "\n"
  else (outcomes.filter Outcome.matched).map fun o => listed o.observation ++ "\n"

theorem text_all (outcomes : List Outcome) :
  text false true outcomes = String.join (lines true outcomes)
  := by
  rw [text, lines, if_pos rfl, ← String.toList_inj, String.toList_ofList, String.toList_join,
    List.flatMap_map]
  congr 1
  funext o
  rw [line, if_pos rfl, marker_eq, shown_eq, String.toList_append, String.toList_append]
  rfl

theorem text_matches (outcomes : List Outcome) :
  text false false outcomes = String.join (lines false outcomes)
  := by
  rw [text, lines, if_neg Bool.false_ne_true, ← String.toList_inj, String.toList_ofList,
    String.toList_join, List.flatMap_map]
  induction outcomes with
  | nil => rfl
  | cons o outcomes ih =>
    rw [List.flatMap_cons, ih, line, if_neg Bool.false_ne_true, shown_eq]
    cases hmatched : o.matched with
    | true =>
      rw [List.filter_cons_of_pos hmatched, List.flatMap_cons, String.toList_append, if_pos rfl]
      rfl
    | false =>
      rw [List.filter_cons_of_neg (by simp [hmatched])]
      rfl

/-- Without colours a report is its lines one after the other. -/
theorem text_eq_join (all : Bool) (outcomes : List Outcome) :
  text false all outcomes = String.join (lines all outcomes)
  := by
  cases all with
  | true => apply text_all
  | false => apply text_matches

end MatchCriteria.Report
