import MatchCriteria.Json.Reader
import MatchCriteria.Outcome

/-!
# Matchers of either kind

A text matcher or a number matcher, as what is common to them: they have a written form, and
they are evaluated on texts.
-/

namespace MatchCriteria

/-- A text matcher or a number matcher. -/
inductive Matcher where
  /-- A text matcher. -/
  | text (m : TextMatcher)
  /-- A number matcher. -/
  | number (m : NumberMatcher)
  deriving DecidableEq

namespace Matcher

/-- The written form. -/
def render : Matcher → String
  | text m => m.render
  | number m => m.render

/-- The outcomes on observations that are written as texts, and that threads share. -/
def evaluate (m : Matcher) (σ : Schedule) (texts : List String) :
    Except MatcherError (List Outcome) :=
  match m with
  | text m => .ok (m.evaluate texts)
  | number m => m.evaluateOn σ texts

end Matcher

end MatchCriteria
