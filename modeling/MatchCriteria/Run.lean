import MatchCriteria.CommandLine.Reading
import MatchCriteria.Log.Filter
import MatchCriteria.Report.Document
import MatchCriteria.Report.Text
import MatchCriteria.Text.Controls
import MatchCriteria.Text.Lines

/-!
# Running a command line

A command is run in stages: its matcher is built, the observations are collected, the matcher
is evaluated on them, and the outcomes are reported.  The first stage that fails decides the
answer.  The environment decides only about colours and about the events that are told.  The
output is taken to be a pipe.
-/

namespace MatchCriteria

open CommandLine (Argument Command Stop OutputFormat)

/-- The values of the variables that are set. -/
abbrev Environment := String → Option String

/-- What a program leaves behind. -/
structure Answer where
  /-- The exit code. -/
  code : UInt8
  /-- What is written to the output. -/
  output : String
  /-- What is written to the error output. -/
  errors : String
  deriving DecidableEq, Repr

/-- Why a command fails. -/
inductive Failure where
  /-- The matcher should be JSON, and is not. -/
  | notJson (e : Json.Error)
  /-- The matcher cannot be built, or an observation is not one. -/
  | refused (e : MatcherError)
  /-- The input is no text. -/
  | unreadableInput
  deriving DecidableEq, Repr

namespace Failure

/-- The wording of a failure.  The reason for which a pattern is refused is given twice: as a
part of the error, and as its cause. -/
def message : Failure → String
  | notJson e => "MATCHER is not valid JSON: " ++ e.message
  | refused e@(.invalidPattern source reason) => e.message ++ ": " ++ reason.message source
  | refused e => e.message
  | unreadableInput =>
    "failed to read observations from stdin: stream did not contain valid UTF-8"

/-- The exit code of a failure. -/
def code : Failure → UInt8
  | unreadableInput => 3
  | _ => 2

end Failure

/-- A matcher and its outcomes. -/
structure Evaluation where
  /-- The matcher. -/
  matcher : Matcher
  /-- The outcomes. -/
  outcomes : List Outcome
  deriving DecidableEq

namespace Evaluation

/-- The exit code of an evaluation says whether anything matched. -/
def code (e : Evaluation) : UInt8 := if 0 < matchCount e.outcomes then 0 else 1

/-- The report of an evaluation. -/
def report (format : OutputFormat) (colour all : Bool) (e : Evaluation) : String :=
  match format with
  | .text => Report.text colour all e.outcomes
  | .json => Report.json e.matcher.render e.outcomes

end Evaluation

/-- The matcher that is written as a text, compactly. -/
def Matcher.ofText (s : CommandLine.Subcommand) (text : String) :
    Except MatcherError Matcher :=
  match s with
  | .text => (TextMatcher.ofCompact text).map .text
  | .number => (NumberMatcher.ofText text).map .number

/-- The matcher that a JSON value describes. -/
def Matcher.ofJson (s : CommandLine.Subcommand) (v : Json.Value) :
    Except MatcherError Matcher :=
  match s with
  | .text => (TextMatcher.ofJson v).map .text
  | .number => (NumberMatcher.ofJson v).map .number

/-- The observations in an input: its lines. -/
def observationsIn (input : ByteArray) : Except Failure (List String) :=
  match String.fromUTF8? input with
  | some text => .ok ((Text.lines text.toList).map String.ofList)
  | none => .error .unreadableInput

namespace CommandLine.Command

/-- The JSON value that the matcher of a command is written as, where it is JSON. -/
def jsonMatcher (c : Command) : Except Failure Json.Value :=
  (Json.read c.matcher).mapError .notJson

/-- The first stage: the matcher. -/
def build (c : Command) : Except Failure Matcher :=
  if c.json then do
    let v ← c.jsonMatcher
    (Matcher.ofJson c.subcommand v).mapError .refused
  else (Matcher.ofText c.subcommand c.matcher).mapError .refused

/-- The second stage: the observations, which are the lines of the input unless there are
others. -/
def collect (c : Command) (input : ByteArray) : Except Failure (List String) :=
  if c.observations.isEmpty then observationsIn input else .ok c.observations

/-- All stages up to the outcomes. -/
def evaluate (c : Command) (σ : Schedule) (input : ByteArray) : Except Failure Evaluation := do
  let m ← c.build
  let texts ← c.collect input
  let outcomes ← (m.evaluate σ texts).mapError .refused
  return ⟨m, outcomes⟩

/-- Whether a report has colours: the flags decide, then the environment refuses or asks for
them, and otherwise there are none.  The output is taken to be a pipe: on a terminal there are
colours in the last case too, unless `CI` is set or the terminal has none; that is left out. -/
def colour (c : Command) (env : Environment) : Bool :=
  match c.display.colour? with
  | some b => b
  | none => (env "NO_COLOR").isNone && (env "COLOR").isSome

/-- The events of the first stage.  A matcher that is a JSON integer is built without one. -/
def buildEvents (c : Command) (m : Matcher) : List Log.Event :=
  match c.json, c.jsonMatcher with
  | true, .ok (.integer _) => []
  | _, _ => (Log.Event.built? m).toList

/-- The events of the second stage. -/
def collectEvents (c : Command) (texts : List String) : List Log.Event :=
  if c.observations.isEmpty then [.observed texts.length] else []

/-- The events of all stages that succeed before one fails. -/
def events (c : Command) (σ : Schedule) (input : ByteArray) : List Log.Event :=
  match c.build with
  | .error _ => []
  | .ok m =>
    c.buildEvents m ++
      match c.collect input with
      | .error _ => []
      | .ok texts =>
        c.collectEvents texts ++
          match m.evaluate σ texts with
          | .error _ => []
          | .ok outcomes => [.evaluated m outcomes]

/-- The lines of the events that the environment admits. -/
def log (c : Command) (σ : Schedule) (env : Environment) (time : String) (input : ByteArray) :
    String :=
  match env "SIGMATCH_LOG" with
  | none => ""
  | some directives =>
    let filter := Log.Filter.ofText directives
    let line (e : Log.Event) : List Char :=
      if ((env "NO_COLOR").getD "").isEmpty then (e.line time).render else (e.line time).bare
    String.ofList (((c.events σ input).filter filter.admits).flatMap line)

/-- The answer to a command. -/
def answer (c : Command) (σ : Schedule) (env : Environment) (time : String)
    (input : ByteArray) : Answer :=
  match c.evaluate σ input with
  | .ok e =>
    ⟨e.code, e.report c.display.output (c.colour env) c.display.all, c.log σ env time input⟩
  | .error f => ⟨f.code, "", c.log σ env time input ++ "sigmatch: " ++ f.message ++ "\n"⟩

end CommandLine.Command

namespace CommandLine

/-- Whether messages about the command line have colours: only where the environment forces
them and does not refuse them. -/
def messageColour (env : Environment) : Bool :=
  ((env "NO_COLOR").getD "").isEmpty && !((env "CLICOLOR_FORCE").getD "").isEmpty

/-- A message about the command line.  Without colours it has no control characters either,
not even those of the arguments that it shows. -/
def shownMessage (env : Environment) (m : Text.Markup) : String :=
  String.ofList (if messageColour env then m.render else Text.withoutControls m.render)

/-- The exit code of what stops the reading of a command line. -/
def Stop.code : Stop → UInt8
  | .error _ => 2
  | _ => 0

/-- The answer to a command line that stops the reading of it. -/
def Stop.answer (env : Environment) (s : Stop) : Answer :=
  let text := shownMessage env s.message
  match s with
  | .error _ => ⟨s.code, "", text⟩
  | _ => ⟨s.code, text, ""⟩

/-- The answer to a command line that names no command: the page of the program. -/
def emptyAnswer (env : Environment) : Answer :=
  ⟨0, shownMessage env Scope.program.page ++ "\n", ""⟩

end CommandLine

/-- Whether a command line makes the input be read: where there are no observations in it, and
nothing fails before. -/
def readsInput (args : List ByteArray) : Bool :=
  match CommandLine.read (args.map Argument.ofBytes) with
  | .ok (some c) => c.observations.isEmpty && c.build.isOk
  | _ => false

/-- The answer to a command line, at a time, with an environment and an input, where threads
share the observations. -/
def runOn (σ : Schedule) (env : Environment) (time : String) (args : List ByteArray)
    (input : ByteArray) : Answer :=
  match CommandLine.read (args.map Argument.ofBytes) with
  | .error stop => stop.answer env
  | .ok none => CommandLine.emptyAnswer env
  | .ok (some c) => c.answer σ env time input

/-- The answer to a command line on a single thread. -/
def run (env : Environment) (time : String) (args : List ByteArray) (input : ByteArray) :
    Answer :=
  runOn .oneThread env time args input

end MatchCriteria
