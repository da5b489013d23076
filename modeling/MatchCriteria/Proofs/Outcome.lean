import MatchCriteria.CommandLine.Parameter
import MatchCriteria.Matcher
import MatchCriteria.Proofs.Result
import Mathlib.Data.List.Basic

/-!
# Evaluating lists of observations

A matcher accepts an observation or not, whatever the other observations are.  A text matcher
has outcomes on every list; a number matcher has them when every observation is one.  Then
there is one outcome for each observation, in order, and it says whether that was accepted.
-/

namespace MatchCriteria

/-- Whether a number matcher accepts an observation that is written as a text. -/
def NumberMatcher.accepts (m : NumberMatcher) (text : String) : Bool :=
  match observation text with
  | .ok observed => m.Matches observed
  | .error _ => false

/-- Whether a matcher accepts an observation that is written as a text. -/
def Matcher.accepts : Matcher → String → Bool
  | .text m => fun text => m.Matches text.toUTF8
  | .number m => m.accepts

/-- The outcomes on observations each of which is accepted or not. -/
def outcomesOf (accepts : String → Bool) (texts : List String) : List Outcome :=
  texts.map fun text => ⟨text, accepts text⟩

/-- Something matched when something was accepted. -/
theorem matchCount_outcomesOf_pos_iff (accepts : String → Bool) (texts : List String) :
  0 < matchCount (outcomesOf accepts texts) ↔ texts.any accepts = true
  := by
  rw [matchCount, outcomesOf, List.countP_map, List.countP_pos_iff, List.any_eq_true]
  rfl

/-- The outcome of a number matcher on a written observation. -/
def NumberMatcher.outcome (m : NumberMatcher) (text : String) : Except MatcherError Outcome :=
  (observation text).map fun observed => ⟨text, m.Matches observed⟩

/-- The evaluation of a number matcher goes from one observation to the next. -/
theorem NumberMatcher.evaluate_eq_mapM (m : NumberMatcher) (texts : List String) :
  m.evaluate texts = texts.mapM m.outcome
  := by
  induction texts with
  | nil => rfl
  | cons text texts ih =>
    rw [evaluate, ih, List.mapM_cons, outcome]
    cases observation text <;> rfl

/-- Observations all of which are numbers, or absent, are evaluated one by one. -/
theorem NumberMatcher.evaluate_of_forall (m : NumberMatcher) {texts : List String}
    (h : ∀ text ∈ texts, ∃ observed, observation text = .ok observed) :
  m.evaluate texts = .ok (outcomesOf m.accepts texts)
  := by
  rw [evaluate_eq_mapM, mapM_eq_ok_iff, outcomesOf, List.forall₂_map_right_iff,
    List.forall₂_same]
  intro text htext
  obtain ⟨observed, hobserved⟩ := h text htext
  rw [outcome, accepts, hobserved]
  rfl

/-- A number matcher has outcomes only on observations that are numbers, or absent. -/
theorem NumberMatcher.forall_of_evaluate {m : NumberMatcher} {texts : List String}
    {outcomes : List Outcome} (h : m.evaluate texts = .ok outcomes) :
  ∀ text ∈ texts, ∃ observed, observation text = .ok observed
  := by
  rw [evaluate_eq_mapM] at h
  intro text htext
  obtain ⟨o, ho⟩ := forall_of_mapM_eq_ok h text htext
  obtain ⟨observed, hobserved, -⟩ := exists_of_map_eq_ok ho
  exact ⟨observed, hobserved⟩

/-- Where there are outcomes, there is one for each observation. -/
theorem NumberMatcher.length_of_evaluate {m : NumberMatcher} {texts : List String}
    {outcomes : List Outcome} (h : m.evaluate texts = .ok outcomes) :
  outcomes.length = texts.length
  := by
  rw [evaluate_eq_mapM, mapM_eq_ok_iff] at h
  apply h.length_eq.symm

/-- The kind of a matcher. -/
def Matcher.subcommand : Matcher → CommandLine.Subcommand
  | .text _ => .text
  | .number _ => .number

end MatchCriteria
