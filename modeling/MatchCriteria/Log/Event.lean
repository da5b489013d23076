import MatchCriteria.Matcher
import MatchCriteria.Text.Quoted
import MatchCriteria.Text.Style

/-!
# Events

What a command tells of its course.  An event has a target, which says where it comes from, a
message, and named values.  All events have the same level: they are for debugging.
-/

namespace MatchCriteria.Log

open Text (Markup)
open Text.Markup (plain)

/-- Where events come from. -/
inductive Target where
  /-- The building of a text matcher. -/
  | textMatcher
  /-- The building of a number matcher. -/
  | numberMatcher
  /-- The reading of the input. -/
  | input
  /-- The evaluation of a matcher. -/
  | evaluation
  deriving DecidableEq, Repr

/-- The path of a target, which directives refer to by what it begins with. -/
def Target.path : Target → String
  | textMatcher => "sigmatch::pattern::text"
  | numberMatcher => "sigmatch::pattern::number"
  | input => "sigmatch::cmd_output"
  | evaluation => "sigmatch::evaluate"

/-- Something that happened. -/
structure Event where
  /-- Where it happened. -/
  target : Target
  /-- What happened. -/
  message : String
  /-- The names and values that belong to it. -/
  fields : List (String × String)
  deriving DecidableEq, Repr

namespace Event

/-- A matcher has been built.  The matcher of absence is built without an event. -/
def built? : Matcher → Option Event
  | .text (.literal value) => some
    ⟨.textMatcher, "built literal text matcher", [("literal", Text.quoted value)]⟩
  | .text (.regex source _ _) => some
    ⟨.textMatcher, "compiled regex text matcher", [("pattern", Text.quoted source)]⟩
  | .number m =>
    if m.isAbsent then none
    else some ⟨.numberMatcher, "built number matcher", [("matcher", m.render)]⟩

/-- A number of observations has been read from the input. -/
def observed (count : Nat) : Event :=
  ⟨.input, "read observations from stdin", [("count", toString count)]⟩

/-- A matcher has been evaluated. -/
def evaluated (m : Matcher) (outcomes : List Outcome) : Event :=
  let kind := match m with
    | .text _ => "text"
    | .number _ => "number"
  ⟨.evaluation, "evaluated " ++ kind ++ " matcher",
    [("matcher", m.render), ("total", toString outcomes.length),
      ("matched", toString (matchCount outcomes))]⟩

/-- The names by which the values of an event are known; the message has one too. -/
def fieldNames (e : Event) : List String := "message" :: e.fields.map fun f => f.1

/-- The line of an event at a time. -/
def line (time : String) (e : Event) : Markup :=
  [([2], time)] ++ plain " " ++ [([34], "DEBUG")] ++ plain (" " ++ e.message) ++
    e.fields.flatMap (fun f => plain " " ++ [([3], f.1), ([2], "=")] ++ plain f.2) ++
    plain "\n"

end Event

end MatchCriteria.Log
