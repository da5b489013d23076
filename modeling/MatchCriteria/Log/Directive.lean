import MatchCriteria.Log.Event
import MatchCriteria.Pattern.Compile
import MatchCriteria.Text.Blank
import MatchCriteria.Unicode.Property

/-!
# Directives

A directive sets the level up to which events are told, for all of them or for those of some
targets.  It is written as a level, as a target, or as a target, an equals sign and a level;
after the target there may be a span and fields in brackets.  Events stand in no span, so a
directive with a span has no effect on them, and neither has one that asks for the value of a
field.
-/

namespace MatchCriteria.Log

/-- How much is told: each level tells what the ones before it tell, and more. -/
inductive Level where
  | off
  | error
  | warn
  | info
  | debug
  | trace
  deriving DecidableEq, Repr

namespace Level

/-- The place of a level in the order of the levels. -/
def rank : Level → Nat
  | off => 0
  | error => 1
  | warn => 2
  | info => 3
  | debug => 4
  | trace => 5

/-- The name of a level. -/
def name : Level → String
  | off => "off"
  | error => "error"
  | warn => "warn"
  | info => "info"
  | debug => "debug"
  | trace => "trace"

/-- Every level. -/
def all : List Level := [off, error, warn, info, debug, trace]

/-- The number that digits denote, with or without a plus sign. -/
def number? (text : List Char) : Option Nat :=
  let digits := match text with
    | '+' :: rest => rest
    | text => text
  if digits.isEmpty || !digits.all Char.isDigit then none
  else some (digits.foldl (fun n c => 10 * n + (c.toNat - '0'.toNat)) 0)

/-- The level of a name, whatever the case of its letters, or of its place in the order. -/
def ofText? (text : List Char) : Option Level :=
  all.find? fun l =>
    number? text = some l.rank || String.ofList (text.map Char.toLower) = l.name

end Level

/-- A setting of a level. -/
structure Directive where
  /-- What the paths of the targets of the events begin with. -/
  target : Option String
  /-- Whether the events have to stand in a span, or a field has to have a value. -/
  isDynamic : Bool
  /-- A field that the events have. -/
  field : Option String
  /-- The level. -/
  level : Level
  deriving DecidableEq, Repr

namespace Directive

/-- The part of a text between two indices. -/
def slice (text : List Char) (start stop : Nat) : String :=
  String.ofList ((text.drop start).take (stop - start))

/-- Whether a text is an optional letter `e` with an optional sign and digits. -/
def isExponent : List Char → Bool
  | [] => true
  | e :: rest =>
    let digits := match rest with
      | '+' :: digits => digits
      | '-' :: digits => digits
      | digits => digits
    (e = 'e' || e = 'E') && !digits.isEmpty && digits.all Char.isDigit

/-- Whether a text is a number, with or without a sign: digits with at most one point among
them and perhaps an exponent, or a name of infinity or of no number. -/
def isNumber (text : List Char) : Bool :=
  let unsigned := match text with
    | '+' :: rest => rest
    | '-' :: rest => rest
    | rest => rest
  let name := String.ofList (unsigned.map Char.toLower)
  let (whole, rest) := unsigned.span Char.isDigit
  let (fraction, rest) := match rest with
    | '.' :: rest => rest.span Char.isDigit
    | rest => ([], rest)
  name = "inf" || name = "infinity" || name = "nan" ||
    (!(whole.isEmpty && fraction.isEmpty) && isExponent rest)

/-- The name of a field, and whether a value is asked for; the value has to be a number or a
pattern that can be followed. -/
def field? (text : List Char) : Option (String × Bool) :=
  let (name, rest) := text.span fun c => c ≠ '='
  match rest with
  | _ :: value =>
    let value := value.takeWhile fun c => c ≠ '='
    if isNumber value || Pattern.canBeFollowed (String.ofList value) then
      some (String.ofList name, true)
    else none
  | [] => if name.isEmpty then none else some (String.ofList name, false)

/-- The directive with the level that stands in a text from an index on; without one, all is
told. -/
def withLevel? (text : List Char) (start : Nat) (level : Level → Directive) : Option Directive :=
  match text.drop start with
  | [] => some (level .trace)
  | written => (Level.ofText? written).map level

/-- The directive after the brackets of a text. -/
def afterBrackets? (text trimmed : List Char) (start : Nat) (level : Level → Directive) :
    Option Directive :=
  match trimmed.drop start with
  | [] => some (level .trace)
  | '=' :: _ => withLevel? text (start + 1) level
  | _ => none

/-- The directive of a target and of what stands in brackets from an index on. -/
def inBrackets? (text trimmed : List Char) (target : Option String) (start : Nat) :
    Option Directive :=
  let body := trimmed.drop start
  let stop := start + (body.takeWhile fun c => c ≠ ']' && c ≠ '\x7b').length
  match trimmed.drop stop with
  | ']' :: _ => afterBrackets? text trimmed (stop + 1) (⟨target, true, none, ·⟩)
  | '\x7b' :: rest =>
    let close := stop + 1 + (rest.takeWhile fun c => c ≠ '\x7d').length
    match trimmed.drop close with
    | '\x7d' :: ']' :: _ => do
      let (name, hasValue) ← field? ((text.drop (stop + 1)).take (close - (stop + 1)))
      afterBrackets? text trimmed (close + 2)
        (⟨target, start < stop || hasValue, some name, ·⟩)
    | _ => none
  | _ => none

/-- Whether a target can start with a character. -/
def startsTarget (c : Char) : Bool :=
  c = '-' || c = ':' || c = '_' || c.isAlphanum ||
    (0x80 ≤ c.toNat && (Unicode.alphabetic.contains c.toNat ||
      (Unicode.categories ["Nd", "Nl", "No"]).contains c.toNat))

/-- The directive of a text.  Its parts are told apart in the text without the blanks around
it, and are then cut out of the text with them at the same places. -/
def ofText? (text : List Char) : Option Directive :=
  let trimmed := Text.trim text
  match trimmed with
  | '[' :: _ => inBrackets? text trimmed none 1
  | c :: _ =>
    if startsTarget c then
      let stop := (trimmed.takeWhile fun c => c ≠ '=' && c ≠ '[').length
      let target := slice text 0 stop
      match trimmed.drop stop with
      | '=' :: _ => withLevel? text (stop + 1) (⟨some target, false, none, ·⟩)
      | _ :: _ => inBrackets? text trimmed (some target) (stop + 1)
      | [] =>
        match Level.ofText? text with
        | some level => some ⟨none, false, none, level⟩
        | none => some ⟨some (String.ofList text), false, none, .trace⟩
    else none
  | [] => none

/-- Whether a directive is about an event. -/
def concerns (d : Directive) (e : Event) : Bool :=
  !d.isDynamic &&
    (match d.target with
      | some target => target.toList.isPrefixOf e.target.path.toList
      | none => true) &&
    (match d.field with
      | some name => e.fieldNames.contains name
      | none => true)

/-- How much of a target a directive names. -/
def targetLength (d : Directive) : Nat :=
  match d.target with
  | some target => target.utf8ByteSize + 1
  | none => 0

/-- The code points of the field of a directive. -/
def fieldCodes (d : Directive) : List Nat :=
  match d.field with
  | some name => name.toList.map Char.toNat
  | none => []

/-- Whether a directive is at least as specific as another one about the same event.  Between
two with a field, the order of the names decides. -/
def outranks (d other : Directive) : Bool :=
  if d.targetLength ≠ other.targetLength then other.targetLength < d.targetLength
  else if d.field.isSome ≠ other.field.isSome then d.field.isSome
  else !d.fieldCodes.lex other.fieldCodes Nat.blt

end Directive

end MatchCriteria.Log
