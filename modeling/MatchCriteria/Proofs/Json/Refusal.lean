import MatchCriteria.Json.Fault
import MatchCriteria.Json.Reader
import Mathlib.Data.List.TakeWhile

/-!
# Refusals and their words

A value is refused in some words.  They are kept, and a position is written behind them, unless
they end with a position themselves.
-/

namespace MatchCriteria.Json

/-- The characters are the digits of a number. -/
def Digits (cs : List Char) : Prop := cs ≠ [] ∧ ∀ c ∈ cs, isDigit c = true

/-- The text ends with a position. -/
def EndsWithPosition (text : String) : Prop :=
  ∃ before line column : List Char, Digits line ∧ Digits column ∧
    text.toList = before ++ " at line ".toList ++ line ++ " column ".toList ++ column

namespace Error

/-- The error is made of the words in which something is refused, and starts with them unless they
end with a position. -/
structure Refuses (e : Error) (words : String) : Prop where
  made : ∃ p, e = (ofMessage words).locate p
  refused : ∃ text position, e = .refused text position
  message : ¬ EndsWithPosition words → ∃ position, e.message = words ++ position

/-- The digits that a text starts with are a number if they count. -/
theorem digits_of_count? {cs : List Char} {n : Nat}
    (h : count? (cs.takeWhile isDigit).reverse = some n) :
  Digits (cs.takeWhile isDigit).reverse
  := by
  constructor
  · intro hempty
    rw [hempty] at h
    cases h
  · intro c hc
    rw [List.mem_reverse] at hc
    apply List.mem_takeWhile_imp hc

/-- A text that starts with a mark behind its digits is cut there. -/
theorem eq_append_of_isPrefixOf {cs mark : List Char}
    (h : mark.reverse.isPrefixOf (cs.dropWhile isDigit) = true) :
  cs.reverse
    = ((cs.dropWhile isDigit).drop mark.length).reverse ++ mark ++ (cs.takeWhile isDigit).reverse
  := by
  obtain ⟨rest, hrest⟩ := List.isPrefixOf_iff_prefix.mp h
  have hdrop : (cs.dropWhile isDigit).drop mark.length = rest := by
    rw [← hrest, ← List.length_reverse, List.drop_left]
  rw [hdrop]
  conv => lhs; rw [← List.takeWhile_append_dropWhile (p := isDigit) (l := cs), ← hrest]
  rw [List.reverse_append, List.reverse_append, List.reverse_reverse]

/-- A position is found only where one is written. -/
theorem endsWithPosition_of_splitLocated? {text : String} {r : List Char × Nat × Nat}
    (h : splitLocated? text.toList = some r) :
  EndsWithPosition text
  := by
  have hdigit : (fun c : Char => decide ('0' ≤ c) && decide (c ≤ '9')) = isDigit := rfl
  simp only [splitLocated?, hdigit, List.length_reverse] at h
  split at h
  case isFalse => cases h
  case isTrue hcolumn =>
    split at h
    case isFalse => cases h
    case isTrue hline =>
      split at h
      case h_2 => cases h
      case h_1 hl hc =>
        have htext := eq_append_of_isPrefixOf hcolumn
        rw [eq_append_of_isPrefixOf hline, List.reverse_reverse] at htext
        exact ⟨_, _, _, digits_of_count? hl, digits_of_count? hc, htext⟩

/-- Words that do not end with a position are kept as they are. -/
theorem ofMessage_eq {text : String} (h : ¬ EndsWithPosition text) :
  ofMessage text = refused text none
  := by
  unfold ofMessage
  split
  case h_1 hsplit => cases h (endsWithPosition_of_splitLocated? hsplit)
  case h_2 => rfl

/-- What is refused in some words is refused in these words at every position. -/
theorem refuses_locate_ofMessage (words : String) (p : Position) :
  ((ofMessage words).locate p).Refuses words
  := by
  constructor
  case made => exact ⟨p, rfl⟩
  case refused =>
    unfold ofMessage
    split
    · split <;> exact ⟨_, _, rfl⟩
    · exact ⟨_, _, rfl⟩
  case message =>
    intro h
    rw [ofMessage_eq h]
    simp only [locate, Error.message, located, String.append_assoc]
    exact ⟨_, rfl⟩

end Error

end MatchCriteria.Json
