import MatchCriteria.CommandLine.Argument
import MatchCriteria.CommandLine.Parameter

/-!
# Commands

What a command line asks for: a matcher, the observations to evaluate it on, and how the
outcomes are reported.
-/

namespace MatchCriteria.CommandLine

/-- The format of a report. -/
inductive OutputFormat where
  /-- Lines. -/
  | text
  /-- A JSON document. -/
  | json
  deriving DecidableEq, Repr

namespace OutputFormat

/-- The name of a format. -/
def name : OutputFormat → String
  | text => "text"
  | json => "json"

/-- Every format. -/
def all : List OutputFormat := [text, json]

/-- The format of a name. -/
def ofName? (name : String) : Option OutputFormat := all.find? fun f => f.name = name

@[simp]
theorem ofName?_name (f : OutputFormat) :
  ofName? f.name = some f
  := by
  cases f <;> decide

end OutputFormat

/-- How outcomes are reported. -/
structure Display where
  /-- The format. -/
  output : OutputFormat
  /-- Whether misses are listed too. -/
  all : Bool
  /-- Whether colours are asked for. -/
  color : Bool
  /-- Whether colours are refused. -/
  noColor : Bool
  deriving DecidableEq, Repr

/-- Whether there are colours, where the flags say so.  Refusing them wins. -/
def Display.colour? (d : Display) : Option Bool :=
  if d.noColor then some false else if d.color then some true else none

/-- A command. -/
structure Command where
  /-- What is matched. -/
  subcommand : Subcommand
  /-- The matcher as it is written. -/
  matcher : String
  /-- Whether it is written as JSON. -/
  json : Bool
  /-- The observations; without any, the lines of the input are observed. -/
  observations : List String
  /-- How the outcomes are reported. -/
  display : Display
  deriving DecidableEq, Repr

end MatchCriteria.CommandLine
