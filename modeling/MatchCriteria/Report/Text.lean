import MatchCriteria.Outcome
import MatchCriteria.Text.Style

/-!
# Reports as text

A report has a line for each observation that matched, or for every observation behind a
marker.  An empty observation is shown by a placeholder.  The markers and the placeholder may
be styled by escape sequences, and nothing else is.
-/

namespace MatchCriteria.Report

/-- A part of a report in a style, or without one where there is no colour. -/
def styled (colour : Bool) (s : Text.Style) (part : List Char) : List Char :=
  if colour then Text.paint s part else part

/-- The style of the marker of a match: bold and green, and nothing else. -/
def matchedStyle : Text.Style := [0, 1, 32]

/-- The style of the marker of a miss: bold and red, and nothing else. -/
def missedStyle : Text.Style := [0, 1, 31]

/-- The style of the placeholder: dimmed, and nothing else. -/
def absentStyle : Text.Style := [0, 2]

/-- What is shown for an empty observation. -/
def placeholder : List Char := "(none)".toList

/-- The marker of an outcome and the blank after it. -/
def marker (colour matched : Bool) : List Char :=
  (if matched then styled colour matchedStyle "MATCH".toList
    else styled colour missedStyle "MISS ".toList) ++ [' ']

/-- An observation as it is shown. -/
def shown (colour : Bool) (observation : String) : List Char :=
  if observation.toList.isEmpty then styled colour absentStyle placeholder
  else observation.toList

/-- The line of an outcome, if it has one: misses have none unless all are listed. -/
def line (colour all : Bool) (o : Outcome) : List Char :=
  if all then marker colour o.matched ++ shown colour o.observation ++ ['\n']
  else if o.matched then shown colour o.observation ++ ['\n']
  else []

/-- The report of outcomes as text. -/
def text (colour all : Bool) (outcomes : List Outcome) : String :=
  String.ofList (outcomes.flatMap (line colour all))

end MatchCriteria.Report
