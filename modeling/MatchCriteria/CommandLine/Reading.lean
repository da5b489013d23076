import MatchCriteria.CommandLine.Fault

/-!
# Reading command lines

The first argument that names a command decides what the others are.  Among the arguments of
a command, flags may stand anywhere before two hyphens; the first value is the matcher, and
the others are the observations.

A parameter is open from its first value on until another parameter begins or the line ends;
it takes effect when it is closed, so a fault in its values is found only then.
-/

namespace MatchCriteria.CommandLine

/-- What has been read of the arguments of a command. -/
structure Draft where
  /-- The parameters that have been closed, each once. -/
  given : List Parameter := []
  /-- The format of the report. -/
  output : OutputFormat := .text
  /-- The matcher. -/
  matcher : Option String := none
  /-- The observations. -/
  observations : List String := []
  /-- The parameter that is open, and its values. -/
  pending : Option (Parameter × List Argument) := none
  deriving DecidableEq, Repr

namespace Draft

/-- A draft in which a parameter is given. -/
def mark (d : Draft) (p : Parameter) : Draft :=
  if p ∈ d.given then d else { d with given := d.given ++ [p] }

/-- Whether the next value belongs to a flag. -/
def awaitsValue (d : Draft) : Bool := d.pending = some (.flag .output, [])

/-- The format that is meant by a value. -/
def formatOf (value : Argument) : Except Fault OutputFormat :=
  match value.text?.bind OutputFormat.ofName? with
  | some format => .ok format
  | none => .error (if value.isEmpty then .missingFormat else .invalidFormat value.shown)

/-- A text among the arguments. -/
def textOf (value : Argument) : Except Fault String :=
  match value.text? with
  | some text => .ok text
  | none => .error .notText

/-- A draft in which a parameter with some values has taken effect. -/
def take (d : Draft) (p : Parameter) (values : List Argument) : Except Fault Draft :=
  match p with
  | .flag .output =>
    match values with
    | [] => .error .missingFormat
    | value :: _ => do
      if p ∈ d.given then throw (.repeatedFlag .output)
      return { d.mark p with output := ← formatOf value }
  | .flag f => if p ∈ d.given then .error (.repeatedFlag f) else .ok (d.mark p)
  | .matcher => do
    let texts ← values.mapM textOf
    return { d.mark p with matcher := texts.head? }
  | .observations => do
    let texts ← values.mapM textOf
    return { d.mark p with observations := d.observations ++ texts }

/-- A draft in which nothing is open. -/
def close (d : Draft) : Except Fault Draft :=
  match d.pending with
  | none => .ok d
  | some (p, values) => ({ d with pending := none }).take p values

/-- The parameters that count as used once nothing is open, whether or not the values of the
one that was open are right. -/
def usedOnceClosed (d : Draft) : List Parameter :=
  match d.pending with
  | none => d.given
  | some (.flag _, []) => d.given
  | some (p@(.flag _), _) => if p ∈ d.given then d.given.erase p else d.given ++ [p]
  | some (p, _) => (d.mark p).given

/-- A draft in which a parameter has been opened. -/
def begin (d : Draft) (p : Parameter) (values : List Argument) : Except Fault Draft := do
  return { ← d.close with pending := some (p, values) }

/-- A draft in which a parameter has been opened and closed. -/
def put (d : Draft) (p : Parameter) (values : List Argument) : Except Fault Draft := do
  (← d.close).take p values

/-- A draft in which a value has been read that belongs to no flag. -/
def positional (d : Draft) (value : Argument) : Except Fault Draft := do
  match d.pending with
  | some (.observations, values) =>
    return { d with pending := some (.observations, values ++ [value]) }
  | _ =>
    let d ← d.close
    d.begin (if d.matcher.isNone then .matcher else .observations) [value]

end Draft

/-- Stops at a fault, whose message shows the line of usage in full. -/
def orStop {α : Type} (scope : Scope) (r : Except Fault α) : Except Stop α :=
  r.mapError fun fault => .error ⟨fault, scope, []⟩

/-- The flag of a scope whose word is the most similar to a word. -/
def Scope.similarFlag? (scope : Scope) (word : String) : Option Flag :=
  (Text.mostSimilar? word (scope.flags.map Flag.word)).bind scope.flagOfWord?

/-- An argument that begins with a hyphen and a letter that is none of a flag, as it is
shown. -/
def shownLetter (letter : Option Char) (rest : Argument) : String :=
  match letter with
  | some c => "-" ++ String.singleton c
  | none => "-" ++ Argument.shown (letter :: rest)

/-- The value of a flag that stands behind its letter, if one does. -/
def attachedValue? : Argument → Option Argument
  | [] => none
  | some '=' :: value => some value
  | value => some value

namespace Draft

/-- The draft after a flag of a command. -/
def flag (s : Subcommand) (d : Draft) (f : Flag) (value : Option Argument) :
    Except Stop Draft :=
  let scope := Scope.command s
  match f, value with
  | .output, some v => orStop scope (d.put (.flag .output) [v])
  | .output, none => orStop scope (d.begin (.flag .output) [])
  | f, some v => .error (.error ⟨.unexpectedValue f v.shown, scope, d.given⟩)
  | .help, none => do
    discard <| orStop scope d.close
    throw (.help scope)
  | .version, none => do
    discard <| orStop scope d.close
    throw (.version scope)
  | f, none => orStop scope (d.put (.flag f) [])

/-- The draft after two hyphens and a word. -/
def long (s : Subcommand) (d : Draft) (name : Argument) (value : Option Argument) :
    Except Stop Draft :=
  let scope := Scope.command s
  match name.text?.bind scope.flagOfWord? with
  | some f => d.flag s f value
  | none =>
    let written := "--" ++ name.shown
    match scope.similarFlag? name.shown with
    | some f =>
      .error (.error ⟨.unexpectedArgument written (.similarFlag f), scope, d.usedOnceClosed⟩)
    | none => .error (.error ⟨.unexpectedArgument written .value, scope, d.usedOnceClosed⟩)

/-- The draft after a hyphen and letters.  The flags that have letters and take no value stop
the reading, so no letter after theirs is read. -/
def short (s : Subcommand) (d : Draft) (letter : Option Char) (rest : Argument) :
    Except Stop Draft :=
  let scope := Scope.command s
  match letter.bind scope.flagOfLetter? with
  | some f => d.flag s f (if f.valueName?.isSome then attachedValue? rest else none)
  | none => .error (.error ⟨.unexpectedArgument (shownLetter letter rest) .value, scope, []⟩)

/-- The draft after an argument that stands before any two hyphens. -/
def argument (s : Subcommand) (d : Draft) (a : Argument) : Except Stop Draft :=
  match a.shape with
  | .long name value => d.long s name value
  | .short letter rest => d.short s letter rest
  | _ =>
    if d.awaitsValue then .ok { d with pending := some (.flag .output, [a]) }
    else orStop (.command s) (d.positional a)

/-- The draft after the arguments of a command.  Behind two hyphens there are only values. -/
def arguments (s : Subcommand) (d : Draft) (onlyValues : Bool) :
    List Argument → Except Stop Draft
  | [] => orStop (.command s) d.close
  | a :: rest =>
    if onlyValues then do
      arguments s (← orStop (.command s) (d.positional a)) true rest
    else if a.shape = .terminator then arguments s d true rest
    else do arguments s (← d.argument s a) false rest

/-- The command of a draft in which nothing is open. -/
def command (s : Subcommand) (d : Draft) : Except Stop Command :=
  match d.matcher with
  | none => .error (.error ⟨.missingMatcher, .command s, d.given⟩)
  | some matcher =>
    let has (f : Flag) : Bool := d.given.contains (.flag f)
    .ok ⟨s, matcher, has .json, d.observations,
      ⟨d.output, has .all, has .color, has .noColor⟩⟩

end Draft

/-- The command of the arguments that follow its name. -/
def readCommand (s : Subcommand) (args : List Argument) : Except Stop Command := do
  let d ← Draft.arguments s {} false args
  d.command s

/-- What is shown when help is asked for by the name of a command. -/
def helpOn (scope : Scope) : List Argument → Stop
  | [] => .help scope
  | a :: rest =>
    match scope, a.text?.bind scopeOfName? with
    | .program, some next => helpOn next rest
    | _, _ => .error ⟨.unknownCommand a.shown [], scope, []⟩

/-- What stops the reading at a word after two hyphens that comes before any command.  A
command that comes later may have a flag with a similar word. -/
def programLong (name : Argument) (value : Option Argument) (rest : List Argument) : Stop :=
  match name.text?.bind Scope.program.flagOfWord?, value with
  | some f, some v => .error ⟨.unexpectedValue f v.shown, .program, []⟩
  | some .version, none => .version .program
  | some _, none => .help .program
  | none, _ =>
    let written := "--" ++ name.shown
    match Scope.program.similarFlag? name.shown with
    | some f => .error ⟨.unexpectedArgument written (.similarFlag f), .program, []⟩
    | none =>
      let later := rest.findSome? fun a => do
        let s ← a.text?.bind Subcommand.ofName?
        let f ← (Scope.command s).similarFlag? name.shown
        return Tip.flagOf s f
      .error ⟨.unexpectedArgument written (later.getD .nothing), .program, []⟩

/-- What stops the reading at a hyphen and letters that come before any command. -/
def programShort (letter : Option Char) (rest : Argument) : Stop :=
  match letter.bind Scope.program.flagOfLetter? with
  | some .version => .version .program
  | some _ => .help .program
  | none => .error ⟨.unexpectedArgument (shownLetter letter rest) .nothing, .program, []⟩

/-- What stops the reading at a value that names no command. -/
def programValue (a : Argument) : Stop :=
  .error ⟨.unknownCommand a.shown (Text.similarNames a.shown commandNames), .program, []⟩

/-- The command that a command line asks for, if it names one. -/
def read : List Argument → Except Stop (Option Command)
  | [] => .ok none
  | a :: rest =>
    match a.text?.bind scopeOfName? with
    | some (.command s) => (readCommand s rest).map some
    | some _ => .error (helpOn .program rest)
    | none =>
      match a.shape with
      | .terminator =>
        match rest with
        | [] => .ok none
        | v :: _ =>
          if (v.text?.bind scopeOfName?).isSome then
            .error (.error ⟨.unexpectedArgument v.shown .command, .program, []⟩)
          else .error (programValue v)
      | .long name value => .error (programLong name value rest)
      | .short letter more => .error (programShort letter more)
      | .value => .error (programValue a)

end MatchCriteria.CommandLine
