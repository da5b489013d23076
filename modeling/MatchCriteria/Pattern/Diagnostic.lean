import MatchCriteria.Text.Lines

/-!
# Diagnostics of patterns

What can be wrong with a pattern, where, and how it is shown: the pattern, with carets
under the part at fault, above the cause.  A place is an index into the characters of the
pattern; lines and columns are counted from it.
-/

namespace MatchCriteria.Pattern

/-- The characters of a pattern from `start` up to, and not including, `stop`. -/
structure Span where
  /-- The index of the first character. -/
  start : Nat
  /-- The index after the last character. -/
  stop : Nat
  deriving DecidableEq, Repr

/-- What is wrong with a pattern. -/
inductive Cause where
  | unclosedGroup
  | unopenedGroup
  | unclosedClass
  | classEscapeInvalid
  | classRangeInvalid
  | classRangeNotLiteral
  | decimalInvalid
  | escapeHexEmpty
  | escapeHexInvalid
  | escapeHexInvalidDigit
  | escapeUnfinished
  | escapeUnrecognized
  | flagDanglingNegation
  | flagDuplicate
  | flagRepeatedNegation
  | flagUnfinished
  | flagUnrecognized
  | groupNameDuplicate
  | groupNameEmpty
  | groupNameInvalid
  | groupNameUnclosed
  | nestedTooDeeply
  | repetitionRangeInvalid
  | repetitionCountMissing
  | repetitionCountUnclosed
  | repetitionMissingOperand
  | boundaryUnclosed
  | boundaryUnrecognized
  | boundaryOrRepetitionUnclosed
  | backreference
  | lookAround
  | unicodeNotAllowed
  | propertyNotFound
  | propertyValueNotFound
  | invalidUtf8
  | unicodeClassInvalid
  deriving DecidableEq, Repr

/-- The deepest nesting of groups, classes and repetitions. -/
def nestLimit : Nat := 250

/-- The wording of a cause. -/
def Cause.message : Cause → String
  | unclosedGroup => "unclosed group"
  | unopenedGroup => "unopened group"
  | unclosedClass => "unclosed character class"
  | classEscapeInvalid => "invalid escape sequence found in character class"
  | classRangeInvalid => "invalid character class range, the start must be <= the end"
  | classRangeNotLiteral => "invalid range boundary, must be a literal"
  | decimalInvalid => "decimal literal invalid"
  | escapeHexEmpty => "hexadecimal literal empty"
  | escapeHexInvalid => "hexadecimal literal is not a Unicode scalar value"
  | escapeHexInvalidDigit => "invalid hexadecimal digit"
  | escapeUnfinished => "incomplete escape sequence, reached end of pattern prematurely"
  | escapeUnrecognized => "unrecognized escape sequence"
  | flagDanglingNegation => "dangling flag negation operator"
  | flagDuplicate => "duplicate flag"
  | flagRepeatedNegation => "flag negation operator repeated"
  | flagUnfinished => "expected flag but got end of regex"
  | flagUnrecognized => "unrecognized flag"
  | groupNameDuplicate => "duplicate capture group name"
  | groupNameEmpty => "empty capture group name"
  | groupNameInvalid => "invalid capture group character"
  | groupNameUnclosed => "unclosed capture group name"
  | nestedTooDeeply =>
    "exceed the maximum number of nested parentheses/brackets (" ++ toString nestLimit ++ ")"
  | repetitionRangeInvalid =>
    "invalid repetition count range, the start must be <= the end"
  | repetitionCountMissing => "repetition quantifier expects a valid decimal"
  | repetitionCountUnclosed => "unclosed counted repetition"
  | repetitionMissingOperand => "repetition operator missing expression"
  | boundaryUnclosed =>
    "special word boundary assertion is either unclosed or contains an invalid character"
  | boundaryUnrecognized =>
    "unrecognized special word boundary assertion, valid choices are: start, end, " ++
      "start-half or end-half"
  | boundaryOrRepetitionUnclosed =>
    "found either the beginning of a special word boundary or a bounded repetition on a " ++
      "\\b with an opening brace, but no closing brace"
  | backreference => "backreferences are not supported"
  | lookAround => "look-around, including look-ahead and look-behind, is not supported"
  | unicodeNotAllowed => "Unicode not allowed here"
  | propertyNotFound => "Unicode property not found"
  | propertyValueNotFound => "Unicode property value not found"
  | invalidUtf8 => "pattern can match invalid UTF-8"
  | unicodeClassInvalid => "invalid Unicode character class"

/-- A cause at a place; a clash with something earlier names that place too. -/
structure Fault where
  /-- What is wrong. -/
  cause : Cause
  /-- Where. -/
  span : Span
  /-- The earlier place it clashes with. -/
  earlier : Option Span := none
  deriving DecidableEq, Repr

/-- A line and a column, both counted from 1. -/
structure Place where
  /-- The line. -/
  line : Nat
  /-- The column, in characters. -/
  column : Nat
  deriving DecidableEq, Repr

/-- The place of the character at an index. -/
def Place.ofIndex (cs : List Char) (i : Nat) : Place :=
  let before := cs.take i
  ⟨1 + before.count '\n', 1 + (before.reverse.takeWhile (· ≠ '\n')).length⟩

/-- A caret for each character of the spans, which are in order and on one line. -/
def carets (cs : List Char) : Nat → List Span → List Char
  | _, [] => []
  | done, s :: rest =>
    let a := (Place.ofIndex cs s.start).column - 1
    let width := Nat.max 1 ((Place.ofIndex cs s.stop).column - 1 - a)
    List.replicate (a - done) ' ' ++ List.replicate width '^' ++
      carets cs (Nat.max done a + width) rest

namespace Fault

/-- The places of a fault, in the order of the pattern. -/
def spans (f : Fault) : List Span :=
  match f.earlier with
  | none => [f.span]
  | some e =>
    if e.start < f.span.start ∨ (e.start = f.span.start ∧ e.stop < f.span.stop)
    then [e, f.span] else [f.span, e]

/-- The pattern with its faulty parts marked, and the cause below it. -/
def render (f : Fault) (pattern : String) : String :=
  let cs := pattern.toList
  let text := Text.lines cs
  let count := text.length + (if cs.getLast? = some '\n' then 1 else 0)
  let width := if count ≤ 1 then 0 else (toString count).length
  let onOneLine (s : Span) := (Place.ofIndex cs s.start).line = (Place.ofIndex cs s.stop).line
  let marked := f.spans.filter onOneLine
  let long := f.spans.filter fun s => !onOneLine s
  let label (n : Nat) : List Char :=
    if width = 0 then "    ".toList
    else
      let digits := (toString n).toList
      List.replicate (width - digits.length) ' ' ++ digits ++ ": ".toList
  let margin := List.replicate (if width = 0 then 4 else width + 2) ' '
  let body := text.zipIdx.flatMap fun (line, i) =>
    let here := marked.filter fun s => (Place.ofIndex cs s.start).line = i + 1
    let notes := if here.isEmpty then [] else margin ++ carets cs 0 here ++ ['\n']
    label (i + 1) ++ line ++ ['\n'] ++ notes
  let note (s : Span) : String :=
    let a := Place.ofIndex cs s.start
    let b := Place.ofIndex cs s.stop
    "on line " ++ toString a.line ++ " (column " ++ toString a.column ++ ") through line " ++
      toString b.line ++ " (column " ++ toString (b.column - 1) ++ ")\n"
  let divider := String.ofList (List.replicate 79 '~') ++ "\n"
  let shown := String.ofList body
  if cs.contains '\n' then
    "regex parse error:\n" ++ divider ++ shown ++ divider ++
      String.join (long.map note) ++ "error: " ++ f.cause.message
  else
    "regex parse error:\n" ++ shown ++ "error: " ++ f.cause.message

end Fault

/-- The greatest size of a compiled pattern, in bytes. -/
def sizeLimit : Nat := 10485760

/-- Why a pattern is refused. -/
inductive Error where
  /-- It does not follow the grammar, or names what there is not. -/
  | malformed (fault : Fault)
  /-- Its compiled form is above the limit. -/
  | tooLarge
  deriving DecidableEq, Repr

/-- The wording of a refusal of the pattern. -/
def Error.message (pattern : String) : Error → String
  | malformed fault => fault.render pattern
  | tooLarge => "Compiled regex exceeds size limit of " ++ toString sizeLimit ++ " bytes."

end MatchCriteria.Pattern
