/-!
# Parameters

The commands of the program, and the flags and positions of each, with the way they are
written and what they are for.
-/

namespace MatchCriteria.CommandLine

/-- What is matched. -/
inductive Subcommand where
  /-- Texts. -/
  | text
  /-- Numbers. -/
  | number
  deriving DecidableEq, Repr

namespace Subcommand

/-- The name of a command. -/
def name : Subcommand → String
  | text => "text"
  | number => "number"

/-- Every command. -/
def all : List Subcommand := [text, number]

/-- The command of a name. -/
def ofName? (name : String) : Option Subcommand := all.find? fun s => s.name = name

@[simp]
theorem ofName?_name (s : Subcommand) :
  ofName? s.name = some s
  := by
  cases s <;> decide

/-- What a command does. -/
def about : Subcommand → String
  | text => "Match text against a literal or /regex/ matcher"
  | number => "Compare hex numbers against a number matcher"

/-- What the observations of a command are called. -/
def observationName : Subcommand → String
  | text => "CANDIDATE"
  | number => "OBSERVED"

/-- What the matcher of a command is. -/
def matcherHelp : Subcommand → String
  | text => "Matcher: a literal, or /regex/"
  | number => "Matcher: \"\" (no value), HEX, or \"OP HEX\" with OP one of == < <= > >="

/-- What the observations of a command are. -/
def observationsHelp : Subcommand → String
  | text => "Texts to match (default: lines from stdin)"
  | number => "Hex values to compare, \"\" for no value (default: lines from stdin)"

end Subcommand

/-- The flags. -/
inductive Flag where
  /-- The matcher is JSON. -/
  | json
  /-- The format of the report. -/
  | output
  /-- Misses are listed too. -/
  | all
  /-- The report has colours. -/
  | color
  /-- The report has no colours. -/
  | noColor
  /-- Asks for help. -/
  | help
  /-- Asks for the version. -/
  | version
  deriving DecidableEq, Repr

namespace Flag

/-- The word of a flag. -/
def word : Flag → String
  | json => "json"
  | output => "output"
  | all => "all"
  | color => "color"
  | noColor => "no-color"
  | help => "help"
  | version => "version"

/-- The letter of a flag. -/
def letter? : Flag → Option Char
  | output => some 'o'
  | help => some 'h'
  | version => some 'V'
  | _ => none

/-- What the value of a flag is called, if it takes one. -/
def valueName? : Flag → Option String
  | output => some "OUTPUT"
  | _ => none

/-- A flag with the name of its value, as it is written in full. -/
def written (f : Flag) : String :=
  "--" ++ f.word ++
    (match f.valueName? with
      | some name => " <" ++ name ++ ">"
      | none => "")

/-- The flags that say how the report looks. -/
def display : List Flag := [output, all, color, noColor]

/-- Whether a flag says how the report looks. -/
def isDisplay (f : Flag) : Bool := display.contains f

/-- What a flag of a command is for. -/
def about (s : Option Subcommand) : Flag → String
  | json =>
    match s with
    | some .number => "Read MATCHER as JSON: a string in the form above, or an integer"
    | _ => "Read MATCHER as JSON: a string, or \x7b\"value\": ..., \"matchType\": ...\x7d"
  | output => "Output format [default: text] [possible values: text, json]"
  | all => "List every observation with a MATCH/MISS marker"
  | color => "Force color output"
  | noColor => "Disable color output"
  | help => "Print help"
  | version => "Print version"

end Flag

/-- What an argument of a command can be. -/
inductive Parameter where
  /-- A flag. -/
  | flag (f : Flag)
  /-- The matcher. -/
  | matcher
  /-- An observation. -/
  | observations
  deriving DecidableEq, Repr

/-- Whether a parameter is a flag that says how the report looks. -/
def Parameter.isDisplay : Parameter → Bool
  | flag f => f.isDisplay
  | _ => false

/-- Whose arguments are read. -/
inductive Scope where
  /-- Those of the program itself. -/
  | program
  /-- Those of a command. -/
  | command (s : Subcommand)
  /-- Those of the command that shows help. -/
  | help
  deriving DecidableEq, Repr

namespace Scope

/-- The name of the program. -/
def programName : String := "sigmatch"

/-- The words that lead to a scope. -/
def path : Scope → List String
  | program => [programName]
  | command s => [programName, s.name]
  | help => [programName, "help"]

/-- The flags of a scope. -/
def flags : Scope → List Flag
  | program => [.help, .version]
  | command _ => [.json, .output, .all, .color, .noColor, .help, .version]
  | help => []

/-- The flag of a scope that has a word. -/
def flagOfWord? (scope : Scope) (word : String) : Option Flag :=
  scope.flags.find? fun f => f.word = word

/-- A command knows each of the flags by its word. -/
theorem flagOfWord?_word (s : Subcommand) (f : Flag) :
  (command s).flagOfWord? f.word = some f
  := by
  cases s <;> cases f <;> decide

/-- The flag of a scope that has a letter. -/
def flagOfLetter? (scope : Scope) (letter : Char) : Option Flag :=
  scope.flags.find? fun f => f.letter? = some letter

end Scope

/-- The names of all commands, the one that shows help among them. -/
def commandNames : List String := Subcommand.all.map Subcommand.name ++ ["help"]

/-- The scope that the name of a command leads to. -/
def scopeOfName? (name : String) : Option Scope :=
  if name = "help" then some .help else (Subcommand.ofName? name).map .command

end MatchCriteria.CommandLine
