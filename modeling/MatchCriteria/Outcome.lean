import MatchCriteria.Number.Matcher
import MatchCriteria.TextMatcher

/-!
# Outcomes

A matcher is evaluated on a list of observations; the outcomes keep their order and the
observations as they were given.  Texts always have an outcome; an observation that is no
number stops the evaluation of numbers.

Threads may share the observations.  Nothing fixes the order in which they come to them, and
where several observations are no numbers it decides which of these is reported.
-/

namespace MatchCriteria

/-- An observation, and whether it matched. -/
structure Outcome where
  /-- The observation as given. -/
  observation : String
  /-- Whether it matched. -/
  matched : Bool
  deriving DecidableEq, Repr

/-- How many of the outcomes matched. -/
def matchCount (outcomes : List Outcome) : Nat := outcomes.countP Outcome.matched

/-- The outcomes of a text matcher on texts. -/
def TextMatcher.evaluate (m : TextMatcher) (texts : List String) : List Outcome :=
  texts.map fun text => ⟨text, m.Matches text.toUTF8⟩

/-- The outcomes of a number matcher on written observations, on a single thread: it comes to
the observations as they are given, and the first one that is no number is reported. -/
def NumberMatcher.evaluate (m : NumberMatcher) :
    List String → Except MatcherError (List Outcome)
  | [] => .ok []
  | text :: texts => do
    let observed ← observation text
    let outcomes ← m.evaluate texts
    return ⟨text, m.Matches observed⟩ :: outcomes

/-- An order in which threads that share some observations come to them. -/
structure Schedule where
  /-- The observations in that order. -/
  order : List String → List String
  /-- Each observation is come to as often as it is given. -/
  perm : ∀ texts, (order texts).Perm texts

/-- A single thread comes to the observations as they are given. -/
def Schedule.oneThread : Schedule := ⟨id, .refl⟩

/-- The outcomes of a number matcher on written observations that threads share.  Of those that
are no numbers the one is reported that is come to first; the outcomes have the order of the
observations, whatever the schedule is. -/
def NumberMatcher.evaluateOn (m : NumberMatcher) (σ : Schedule) (texts : List String) :
    Except MatcherError (List Outcome) := do
  let _ ← m.evaluate (σ.order texts)
  m.evaluate texts

end MatchCriteria
