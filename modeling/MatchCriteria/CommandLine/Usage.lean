import MatchCriteria.CommandLine.Parameter
import MatchCriteria.Text.Style

/-!
# Usage

How a command is written, in one line, and the pages of help.  The line of a command shows
its flags by one word; once some parameters have been used it shows those flags instead, and
may show the flags for the look of the report as one choice.  A page lists what there is in
columns.
-/

namespace MatchCriteria.CommandLine

open Text (Markup Style)
open Text.Markup (plain)

/-- The style of headings: bold and underlined. -/
def headingStyle : Style := [1, 4]

/-- The style of what is written as it stands: bold. -/
def literalStyle : Style := [1]

/-- The style of what would be right: green. -/
def validStyle : Style := [32]

/-- The style of what is wrong: yellow. -/
def invalidStyle : Style := [33]

/-- The style of the word that announces an error: bold and red. -/
def errorStyle : Style := [1, 31]

/-- A flag in a line of usage. -/
def Flag.usage (f : Flag) : Markup :=
  [(literalStyle, "--" ++ f.word)] ++
    (match f.valueName? with
      | some name => plain (" <" ++ name ++ ">")
      | none => [])

/-- The matcher in a line of usage. -/
def matcherUsage : String := "<MATCHER>"

/-- The observations of a command in a line of usage. -/
def Subcommand.observationsUsage (s : Subcommand) (used : Bool) : String :=
  if used then "<" ++ s.observationName ++ ">..." else "[" ++ s.observationName ++ "]..."

/-- The values of a scope in a line of usage. -/
def Scope.valuesUsage (scope : Scope) (used : List Parameter) : Markup :=
  match scope with
  | command s =>
    plain (" " ++ matcherUsage ++ " " ++ s.observationsUsage (used.contains .observations))
  | _ => []

/-- The flags among some parameters, each once. -/
def flagsOf (used : List Parameter) : List Flag :=
  (used.filterMap fun p =>
    match p with
    | .flag f => some f
    | _ => none).eraseDups

/-- The flags for the look of the report as one choice in a line of usage. -/
def displayChoice : Markup :=
  plain (" <" ++ "|".intercalate (Flag.display.map Flag.written) ++ ">")

/-- The flags of a line of usage; with `asOne`, those for the look of the report are shown as
one choice after the others. -/
def flagsUsage (used : List Parameter) (asOne : Bool) : Markup :=
  let shown := (flagsOf used).filter fun f => !asOne || !f.isDisplay
  shown.flatMap (fun f => plain " " ++ f.usage) ++ (if asOne then displayChoice else [])

/-- The line of a scope when some parameters have been used, without its heading. -/
def Scope.usageOf (scope : Scope) (used : List Parameter) (asOne : Bool) : Markup :=
  let lead : Markup := [(literalStyle, " ".intercalate scope.path)]
  if used.isEmpty then
    lead ++
      (match scope with
        | program => plain " [COMMAND]"
        | command _ => plain " [OPTIONS]" ++ scope.valuesUsage []
        | help => plain " [COMMAND]...")
  else
    lead ++ flagsUsage used asOne ++ scope.valuesUsage used

/-- The line of a scope when some parameters have been used. -/
def Scope.usage (scope : Scope) (used : List Parameter) (asOne : Bool) : Markup :=
  [(headingStyle, "Usage:")] ++ plain " " ++ scope.usageOf used asOne

/-- A flag in a column of help, where its letter stands before its word. -/
def Flag.term (f : Flag) : Markup :=
  (match f.letter? with
    | some c => [(literalStyle, "-" ++ String.singleton c)] ++ plain ", "
    | none => plain "    ") ++ f.usage

/-- A part of a page: its heading, and terms with what they mean. -/
structure Section where
  /-- The heading. -/
  heading : String
  /-- The terms and their meanings. -/
  entries : List (Markup × String)

/-- The lines of a part of a page; the meanings start two places after the longest term. -/
def Section.render (s : Section) : Markup :=
  let widest := (s.entries.map fun e => e.1.width).foldl max 0
  [(headingStyle, s.heading ++ ":")] ++ s.entries.flatMap fun e =>
    plain "\n  " ++ e.1 ++
      plain (String.ofList (List.replicate (widest + 2 - e.1.width) ' ') ++ e.2)

/-- What a scope is for. -/
def Scope.about : Scope → String
  | program => "Text and number matchers for crash signature criteria"
  | command s => s.about
  | help => "Print this message or the help of the given subcommand(s)"

/-- The parts of the page of a scope. -/
def Scope.sections (scope : Scope) : List Section :=
  let options (s : Option Subcommand) : Section :=
    ⟨"Options", scope.flags.map fun f => (f.term, f.about s)⟩
  match scope with
  | program =>
    let command (name about : String) : Markup × String := ([(literalStyle, name)], about)
    [⟨"Commands", Subcommand.all.map (fun s => command s.name s.about) ++
      [command "help" help.about]⟩, options none]
  | command s =>
    [⟨"Arguments", [
      (plain matcherUsage, s.matcherHelp),
      (plain (s.observationsUsage false), s.observationsHelp)]⟩, options (some s)]
  | help => [⟨"Arguments", [(plain "[COMMAND]...", "Print help for the subcommand(s)")]⟩]

/-- The page of a scope. -/
def Scope.page (scope : Scope) : Markup :=
  plain (scope.about ++ "\n\n") ++ scope.usage [] false ++
    scope.sections.flatMap (fun s => plain "\n\n" ++ s.render) ++ plain "\n"

/-- The line that tells the version. -/
def Scope.versionLine (scope : Scope) : Markup :=
  plain ("-".intercalate scope.path ++ " 0.1.0\n")

end MatchCriteria.CommandLine
