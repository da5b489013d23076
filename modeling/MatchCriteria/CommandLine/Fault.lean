import MatchCriteria.CommandLine.Command
import MatchCriteria.CommandLine.Usage
import MatchCriteria.Text.Similarity

/-!
# Faults of command lines

What stops the reading of a command line: a request for help or for the version, or a fault.
A fault is shown with a tip where there is one, and with the line of usage unless a value is
at fault.
-/

namespace MatchCriteria.CommandLine

open Text (Markup)
open Text.Markup (plain)

/-- What might have been meant by an unexpected argument. -/
inductive Tip where
  /-- Nothing is known. -/
  | nothing
  /-- A flag with a similar word. -/
  | similarFlag (f : Flag)
  /-- A flag of a command that is named later. -/
  | flagOf (s : Subcommand) (f : Flag)
  /-- A value that looks like a flag. -/
  | value
  /-- A command that is taken for a value. -/
  | command
  deriving DecidableEq, Repr

/-- What is wrong with a command line. -/
inductive Fault where
  /-- There is no command of this name, but there are similar names. -/
  | unknownCommand (name : String) (similar : List String)
  /-- An argument that is neither a flag nor a value. -/
  | unexpectedArgument (written : String) (tip : Tip)
  /-- A flag is given twice. -/
  | repeatedFlag (f : Flag)
  /-- A flag that takes no value is given one. -/
  | unexpectedValue (f : Flag) (value : String)
  /-- The output flag is given no value. -/
  | missingFormat
  /-- The value of the output flag is no format. -/
  | invalidFormat (value : String)
  /-- There is no matcher. -/
  | missingMatcher
  /-- An argument is no text. -/
  | notText
  deriving DecidableEq, Repr

/-- A fault, whose arguments it is one of, and the parameters that the line of usage shows
besides the one that the fault is about. -/
structure Error where
  /-- The fault. -/
  fault : Fault
  /-- Whose arguments have been read. -/
  scope : Scope
  /-- The parameters that have been used. -/
  used : List Parameter
  deriving DecidableEq, Repr

/-- What stops the reading of a command line. -/
inductive Stop where
  /-- The page of a scope is asked for. -/
  | help (scope : Scope)
  /-- The version is asked for. -/
  | version (scope : Scope)
  /-- There is a fault. -/
  | error (e : Error)
  deriving DecidableEq, Repr

/-- A part of a message in quotation marks. -/
def inQuotes (s : Text.Style) (part : String) : Markup :=
  plain "'" ++ [(s, part)] ++ plain "'"

/-- The names of the formats, as they are listed. -/
def formatList : Markup :=
  plain "\n  [possible values: " ++
    (plain ", ").intercalate (OutputFormat.all.map fun f => [(validStyle, f.name)]) ++
    plain "]"

/-- The wording of a fault. -/
def Fault.wording : Fault → Markup
  | unknownCommand name _ => plain "unrecognized subcommand " ++ inQuotes invalidStyle name
  | unexpectedArgument written _ =>
    plain "unexpected argument " ++ inQuotes invalidStyle written ++ plain " found"
  | repeatedFlag f =>
    plain "the argument " ++ inQuotes invalidStyle f.written ++
      plain " cannot be used multiple times"
  | unexpectedValue f value =>
    plain "unexpected value " ++ inQuotes invalidStyle value ++ plain " for " ++
      inQuotes literalStyle f.written ++ plain " found; no more were expected"
  | missingFormat =>
    plain "a value is required for " ++ inQuotes invalidStyle Flag.output.written ++
      plain " but none was supplied" ++ formatList
  | invalidFormat value =>
    plain "invalid value " ++ inQuotes invalidStyle value ++ plain " for " ++
      inQuotes literalStyle Flag.output.written ++ formatList
  | missingMatcher =>
    plain "the following required arguments were not provided:\n  " ++
      [(validStyle, matcherUsage)]
  | notText => plain "invalid UTF-8 was detected in one or more arguments"

/-- A tip that something similar exists. -/
def similarTip (kind : String) (names : List String) : Markup :=
  match names with
  | [] => []
  | [name] => plain (" a similar " ++ kind ++ " exists: ") ++ inQuotes validStyle name
  | names =>
    plain (" some similar " ++ kind ++ "s exist: ") ++
      (plain ", ").intercalate (names.map (inQuotes validStyle))

/-- What a tip says of an argument. -/
def Tip.wording (written : String) : Tip → Markup
  | nothing => []
  | similarFlag f => similarTip "argument" ["--" ++ f.word]
  | flagOf s f =>
    plain " " ++ inQuotes validStyle (s.name ++ " --" ++ f.word) ++ plain " exists"
  | value =>
    plain " to pass " ++ inQuotes invalidStyle written ++ plain " as a value, use " ++
      inQuotes validStyle ("-- " ++ written)
  | command =>
    plain " subcommand " ++ inQuotes validStyle written ++
      plain " exists; to use it, remove the " ++ inQuotes invalidStyle "--" ++
      plain " before it"

/-- The tip on a fault. -/
def Fault.tip : Fault → Markup
  | unknownCommand _ similar => similarTip "subcommand" similar
  | unexpectedArgument written t => t.wording written
  | invalidFormat value =>
    similarTip "value" (Text.mostSimilar? value (OutputFormat.all.map OutputFormat.name)).toList
  | _ => []

/-- Whether the line of usage is shown with a fault. -/
def Fault.showsUsage : Fault → Bool
  | missingFormat => false
  | invalidFormat _ => false
  | _ => true

/-- The parameter that a fault is about, if the line of usage is to show it. -/
def Fault.parameter? : Fault → Option Parameter
  | unexpectedArgument _ (.similarFlag f) => some (.flag f)
  | unexpectedValue f _ => some (.flag f)
  | missingMatcher => some .matcher
  | _ => none

/-- Whether the line of usage shows the flags for the look of the report as one choice: when
one of them has been used before a value comes that no flag takes. -/
def Error.showsDisplayAsOne (e : Error) : Bool :=
  match e.fault with
  | .unexpectedValue _ _ => e.used.any Parameter.isDisplay
  | _ => false

/-- The line of usage of an error. -/
def Error.usage (e : Error) : Markup :=
  e.scope.usage (e.used ++ e.fault.parameter?.toList) e.showsDisplayAsOne

/-- The message of an error. -/
def Error.message (e : Error) : Markup :=
  let tip := e.fault.tip
  [(errorStyle, "error:")] ++ plain " " ++ e.fault.wording ++
    (if tip.isEmpty then [] else plain "\n\n  " ++ [(validStyle, "tip:")] ++ tip) ++
    (if e.fault.showsUsage then plain "\n\n" ++ e.usage else []) ++
    (if e.scope = .help then []
      else plain "\n\nFor more information, try " ++ inQuotes literalStyle "--help" ++
        plain ".") ++
    plain "\n"

/-- What is shown when the reading of a command line stops. -/
def Stop.message : Stop → Markup
  | help scope => scope.page
  | version scope => scope.versionLine
  | error e => e.message

end MatchCriteria.CommandLine
