import MatchCriteria.Proofs.Report.Text
import Mathlib.Data.List.Forall2

/-!
# What the rows of a report tell

A report without colours is its rows, each with a line feed behind it.  Where no observation has a
line feed, the report is cut into its rows again.  A row tells the observation, but for an empty
one, which it does not tell from an observation that is the placeholder; behind a marker it also
tells whether the outcome is a match.  Nothing else is lost.
-/

namespace MatchCriteria.Report

/-- The rows of a report without colours: its lines without the line feeds behind them. -/
def rows (all : Bool) (outcomes : List Outcome) : List String :=
  if all then outcomes.map fun o => marked o.matched ++ listed o.observation
  else (outcomes.filter Outcome.matched).map fun o => listed o.observation

/-- The characters of the markers and of the placeholder. -/
def ownCharacters : List Char :=
  (marked true).toList ++ (marked false).toList ++ (listed "").toList

/-- The observations of some outcomes are within a line. -/
def OneLine (outcomes : List Outcome) : Prop := ∀ o ∈ outcomes, '\n' ∉ o.observation.toList

instance (outcomes : List Outcome) : Decidable (OneLine outcomes) :=
  inferInstanceAs (Decidable (∀ o ∈ outcomes, _))

/-! ### Cutting a report -/

theorem lines_eq_map_rows (all : Bool) (outcomes : List Outcome) :
  lines all outcomes = (rows all outcomes).map fun row => row ++ "\n"
  := by
  rw [lines, rows]
  split
  · rw [List.map_map]
    rfl
  · rw [List.map_map]
    rfl

/-- The characters of a report are those of its rows, with a line feed behind each. -/
theorem toList_text (all : Bool) (outcomes : List Outcome) :
  (text false all outcomes).toList
    = ((rows all outcomes).map String.toList).flatMap fun row => row ++ ['\n']
  := by
  rw [text_eq_join, lines_eq_map_rows, String.toList_join, List.flatMap_map, List.flatMap_map]
  congr 1
  funext row
  apply String.toList_append

/-- An observation is listed with its own characters, or with those of the placeholder. -/
theorem mem_of_mem_listed {c : Char} {observation : String} (h : c ∈ (listed observation).toList) :
  c ∈ observation.toList ∨ c ∈ ownCharacters
  := by
  unfold listed at h
  split at h
  · apply Or.inr (List.mem_append_right _ h)
  · apply Or.inl h

theorem mem_of_mem_marked {c : Char} {matched : Bool} (h : c ∈ (marked matched).toList) :
  c ∈ ownCharacters
  := by
  apply List.mem_append_left
  cases matched with
  | true => apply List.mem_append_left _ h
  | false => apply List.mem_append_right _ h

/-- A row has no other characters than its observation, markers and the placeholder. -/
theorem mem_of_mem_rows {all : Bool} {outcomes : List Outcome} {row : String}
    (hrow : row ∈ rows all outcomes) {c : Char} (hc : c ∈ row.toList) :
  (∃ o ∈ outcomes, c ∈ o.observation.toList) ∨ c ∈ ownCharacters
  := by
  have hlisted {o : Outcome} (ho : o ∈ outcomes) (hc : c ∈ (listed o.observation).toList) :
      (∃ o ∈ outcomes, c ∈ o.observation.toList) ∨ c ∈ ownCharacters := by
    apply (mem_of_mem_listed hc).imp_left
    intro hc
    exact ⟨o, ho, hc⟩
  rw [rows] at hrow
  split at hrow
  · obtain ⟨o, ho, rfl⟩ := List.mem_map.mp hrow
    rw [String.toList_append, List.mem_append] at hc
    rcases hc with hmarked | hc
    · apply Or.inr (mem_of_mem_marked hmarked)
    · apply hlisted ho hc
  · obtain ⟨o, ho, rfl⟩ := List.mem_map.mp hrow
    apply hlisted (List.mem_of_mem_filter ho) hc

/-- A row has no line feed when no observation has one. -/
theorem OneLine.lineFeed_notMem {outcomes : List Outcome} (h : OneLine outcomes) (all : Bool) :
  ∀ row ∈ (rows all outcomes).map String.toList, '\n' ∉ row
  := by
  rw [List.forall_mem_map]
  intro row hrow hfeed
  rcases mem_of_mem_rows hrow hfeed with ⟨o, ho, hfeed⟩ | hown
  · apply h o ho hfeed
  · absurd hown
    decide

/-- Rows without line feeds are found between the line feeds behind them. -/
theorem splitOn_terminated {rows : List (List Char)} (h : ∀ row ∈ rows, '\n' ∉ row) :
  (rows.flatMap fun row => row ++ ['\n']).splitOn '\n' = rows ++ [[]]
  := by
  induction rows with
  | nil => apply List.splitOn_nil
  | cons row rows ih =>
    obtain ⟨hrow, hrows⟩ := List.forall_mem_cons.mp h
    rw [List.flatMap_cons, List.append_assoc, List.singleton_append,
      List.splitOn_append_cons_self_of_not_mem hrow, ih hrows, List.cons_append]

/-- Rows without line feeds are as many as the line feeds behind them. -/
theorem count_terminated {rows : List (List Char)} (h : ∀ row ∈ rows, '\n' ∉ row) :
  (rows.flatMap fun row => row ++ ['\n']).count '\n' = rows.length
  := by
  induction rows with
  | nil => rfl
  | cons row rows ih =>
    obtain ⟨hrow, hrows⟩ := List.forall_mem_cons.mp h
    rw [List.flatMap_cons, List.count_append, List.count_append, List.count_eq_zero.mpr hrow,
      ih hrows, List.length_cons]
    apply Nat.add_comm

/-- A report is cut at its line feeds into its rows. -/
theorem splitOn_text {outcomes : List Outcome} (h : OneLine outcomes) (all : Bool) :
  (text false all outcomes).toList.splitOn '\n' = (rows all outcomes).map String.toList ++ [[]]
  := by
  rw [toList_text, splitOn_terminated (h.lineFeed_notMem all)]

/-- Reports are equal when their rows are. -/
theorem text_eq_text_iff_rows {outcomes outcomes' : List Outcome} (h : OneLine outcomes)
    (h' : OneLine outcomes') (all : Bool) :
  text false all outcomes = text false all outcomes' ↔ rows all outcomes = rows all outcomes'
  := by
  constructor
  · intro heq
    have hcut := splitOn_text h all
    rw [heq, splitOn_text h' all] at hcut
    apply List.map_injective_iff.mpr fun _ _ => String.toList_injective
    apply (List.append_cancel_right hcut).symm
  · intro heq
    rw [← String.toList_inj, toList_text, toList_text, heq]

/-- A report has as many line feeds as rows. -/
theorem count_lineFeed_text {outcomes : List Outcome} (h : OneLine outcomes) (all : Bool) :
  (text false all outcomes).toList.count '\n' = (rows all outcomes).length
  := by
  rw [toList_text, count_terminated (h.lineFeed_notMem all), List.length_map]

/-! ### Reading a row -/

theorem length_marked (matched : Bool) :
  (marked matched).toList.length = 6
  := by
  cases matched with
  | true => rfl
  | false => rfl

theorem marked_injective :
  Function.Injective marked
  := by
  intro a b
  cases a <;> cases b <;> decide

/-- The markers have the same length, so they are told from what follows them. -/
theorem marked_append_eq_iff (matched matched' : Bool) (s s' : String) :
  marked matched ++ s = marked matched' ++ s' ↔ matched = matched' ∧ s = s'
  := by
  constructor
  · intro h
    rw [← String.toList_inj, String.toList_append, String.toList_append] at h
    obtain ⟨hmarked, hs⟩ := List.append_inj h (by rw [length_marked, length_marked])
    exact ⟨marked_injective (String.toList_inj.mp hmarked), String.toList_inj.mp hs⟩
  · rintro ⟨rfl, rfl⟩
    rfl

/-- Only an empty observation is not told from another, which is the placeholder. -/
theorem listed_eq_listed_iff (a b : String) :
  listed a = listed b ↔ a = b ∨ (a = "" ∧ b = "(none)") ∨ (a = "(none)" ∧ b = "")
  := by
  unfold listed
  split <;> split <;> grind

/-- Rows with markers are equal when the outcomes are matches alike, and listed alike. -/
theorem rows_all_eq_iff (outcomes outcomes' : List Outcome) :
  rows true outcomes = rows true outcomes' ↔
    List.Forall₂ (fun o o' => o.matched = o'.matched ∧
      listed o.observation = listed o'.observation) outcomes outcomes'
  := by
  rw [rows, rows, if_pos rfl, if_pos rfl, ← List.forall₂_eq_eq_eq, List.forall₂_map_left_iff,
    List.forall₂_map_right_iff]
  simp only [marked_append_eq_iff]

theorem length_rows_matches (outcomes : List Outcome) :
  (rows false outcomes).length = matchCount outcomes
  := by
  rw [rows, if_neg Bool.false_ne_true, List.length_map, matchCount, List.countP_eq_length_filter]

/-! ### Telling reports apart -/

/-- What reports without colours tell, when no observation has a line feed.  Two reports of all
outcomes are equal exactly when these are as many, and position by position they are matches alike
and listed alike; two reports of the matches, exactly when the observations of the matches are
listed alike in order.  There is a line for each outcome, or for each match.  Observations are
listed alike only if they are equal, or one is empty and the other is the placeholder. -/
theorem text_eq_text_iff {outcomes outcomes' : List Outcome} (h : OneLine outcomes)
    (h' : OneLine outcomes') :
  (text false true outcomes = text false true outcomes' ↔
    List.Forall₂ (fun o o' => o.matched = o'.matched ∧
      listed o.observation = listed o'.observation) outcomes outcomes') ∧
  (text false false outcomes = text false false outcomes' ↔
    (outcomes.filter Outcome.matched).map (fun o => listed o.observation)
      = (outcomes'.filter Outcome.matched).map fun o => listed o.observation) ∧
  (text false true outcomes).toList.count '\n' = outcomes.length ∧
  (text false false outcomes).toList.count '\n' = matchCount outcomes ∧
  ∀ a b, listed a = listed b ↔ a = b ∨ (a = "" ∧ b = "(none)") ∨ (a = "(none)" ∧ b = "")
  := by
  refine ⟨?_, text_eq_text_iff_rows h h' false, ?_, ?_, listed_eq_listed_iff⟩
  · rw [text_eq_text_iff_rows h h', rows_all_eq_iff]
  · rw [count_lineFeed_text h, rows, if_pos rfl, List.length_map]
  · rw [count_lineFeed_text h, length_rows_matches]

/-- An observation that looks like a line with a marker, behind which an empty one is listed as the
placeholder is.  In another order the same observations are told apart. -/
theorem text_eq_text_iff_of_markers :
  text false true [⟨"MISS  a", true⟩, ⟨"", false⟩]
      = text false true [⟨"MISS  a", true⟩, ⟨"(none)", false⟩] ∧
    text false false [⟨"MISS  a", true⟩, ⟨"", true⟩]
      ≠ text false false [⟨"", true⟩, ⟨"MISS  a", true⟩] ∧
    (text false true [⟨"MISS  a", true⟩, ⟨"", false⟩]).toList.count '\n' = 2
  := by
  have hempty : OneLine [⟨"MISS  a", true⟩, ⟨"", false⟩] := by
    decide
  have hplaceholder : OneLine [⟨"MISS  a", true⟩, ⟨"(none)", false⟩] := by
    decide
  have horder : OneLine [⟨"MISS  a", true⟩, ⟨"", true⟩] := by
    decide
  have horder' : OneLine [⟨"", true⟩, ⟨"MISS  a", true⟩] := by
    decide
  obtain ⟨hall, -, hcount, -, -⟩ := text_eq_text_iff hempty hplaceholder
  obtain ⟨-, hmatches, -, -, -⟩ := text_eq_text_iff horder horder'
  refine ⟨?_, ?_, hcount⟩
  · rw [hall]
    decide
  · rw [Ne, hmatches]
    decide

end MatchCriteria.Report
