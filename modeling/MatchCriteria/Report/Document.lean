import MatchCriteria.Json.Printer
import MatchCriteria.Outcome

/-!
# Reports as JSON

The report of outcomes as an object: the matcher in its written form, how many outcomes
matched, how many there are, and the outcomes in order.
-/

namespace MatchCriteria.Report

/-- An outcome as JSON. -/
def outcomeValue (o : Outcome) : Json.Value :=
  .object [("observation", .string o.observation), ("matched", .boolean o.matched)]

/-- The document of the outcomes of a matcher, given in its written form. -/
def document (matcher : String) (outcomes : List Outcome) : Json.Value :=
  .object [
    ("matcher", .string matcher),
    ("matched", Json.Value.ofNat (matchCount outcomes)),
    ("total", Json.Value.ofNat outcomes.length),
    ("results", .array (outcomes.map outcomeValue))]

/-- The report of outcomes as JSON over several lines. -/
def json (matcher : String) (outcomes : List Outcome) : String :=
  Json.renderPretty (document matcher outcomes) ++ "\n"

end MatchCriteria.Report
