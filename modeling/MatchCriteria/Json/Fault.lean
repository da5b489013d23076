import MatchCriteria.Text.Utf8

/-!
# Faults of JSON texts

What can be wrong with a JSON text, and where.  While a text is read, a place is known by
what is left of the text from there on; its line and column, which count bytes, are found
from the whole text at the end.
-/

namespace MatchCriteria.Json

/-- What is wrong with a text that is not JSON. -/
inductive Complaint where
  | unfinishedList
  | unfinishedObject
  | unfinishedString
  | unfinishedValue
  | expectedColon
  | expectedListSeparator
  | expectedMemberSeparator
  | expectedWord
  | expectedValue
  | invalidEscape
  | invalidNumber
  | numberOutOfRange
  | controlCharacter
  | nameNotString
  | loneSurrogate
  | trailingComma
  | trailingCharacters
  | unfinishedSurrogates
  | nestedTooDeeply
  deriving DecidableEq, Repr

namespace Complaint

/-- The wording of a complaint. -/
def message : Complaint → String
  | unfinishedList => "EOF while parsing a list"
  | unfinishedObject => "EOF while parsing an object"
  | unfinishedString => "EOF while parsing a string"
  | unfinishedValue => "EOF while parsing a value"
  | expectedColon => "expected `:`"
  | expectedListSeparator => "expected `,` or `]`"
  | expectedMemberSeparator => "expected `,` or `\x7d`"
  | expectedWord => "expected ident"
  | expectedValue => "expected value"
  | invalidEscape => "invalid escape"
  | invalidNumber => "invalid number"
  | numberOutOfRange => "number out of range"
  | controlCharacter =>
    "control character (\\u0000-\\u001F) found while parsing a string"
  | nameNotString => "key must be a string"
  | loneSurrogate => "lone leading surrogate in hex escape"
  | trailingComma => "trailing comma"
  | trailingCharacters => "trailing characters"
  | unfinishedSurrogates => "unexpected end of hex escape"
  | nestedTooDeeply => "recursion limit exceeded"

/-- Whether the text might have been JSON had it gone on. -/
def isUnfinished : Complaint → Bool
  | unfinishedList => true
  | unfinishedObject => true
  | unfinishedString => true
  | unfinishedValue => true
  | _ => false

end Complaint

/-- A line, counted from 1, and how many bytes of it come before a place. -/
structure Position where
  /-- The line. -/
  line : Nat
  /-- The bytes before the place. -/
  column : Nat
  deriving DecidableEq, Repr

/-- The position after a number of bytes of a text, or at the end of a shorter one. -/
def Position.ofOffset (text : List Char) (offset : Nat) : Position :=
  let before := (Text.utf8 text).take offset
  ⟨1 + before.count 10, (before.reverse.takeWhile (· ≠ 10)).length⟩

/-- A place in a text: `ahead` bytes after the start of what is left. -/
structure Mark where
  /-- What is left of the text. -/
  rest : List Char
  /-- The bytes of it that lie before the place. -/
  ahead : Nat
  deriving DecidableEq, Repr

/-- The position of a mark in the whole text. -/
def Mark.position (text : List Char) (m : Mark) : Position :=
  .ofOffset text (Text.utf8Length text - Text.utf8Length m.rest + m.ahead)

/-- A complaint at a place. -/
structure Fault where
  /-- What is wrong. -/
  complaint : Complaint
  /-- Where. -/
  mark : Mark
  deriving DecidableEq, Repr

/-- A fault at the start of what is left. -/
def Fault.here (complaint : Complaint) (rest : List Char) : Fault := ⟨complaint, ⟨rest, 0⟩⟩

/-- A fault at the first byte of what is left, or at the end. -/
def Fault.next (complaint : Complaint) (rest : List Char) : Fault := ⟨complaint, ⟨rest, 1⟩⟩

/-- Why a text cannot be read as what is asked for. -/
inductive Error where
  /-- The text is not JSON. -/
  | malformed (complaint : Complaint) (position : Position)
  /-- The text is JSON as far as it was read, and describes something else. -/
  | refused (text : String) (position : Option Position)
  deriving DecidableEq, Repr

namespace Error

/-- The text with a position after it. -/
def located (text : String) (p : Position) : String :=
  text ++ " at line " ++ toString p.line ++ " column " ++ toString p.column

/-- The wording of an error. -/
def message : Error → String
  | malformed complaint p => located complaint.message p
  | refused text none => text
  | refused text (some p) => located text p

/-- The number that a run of digits denotes, if there are any and it fits 64 bits. -/
def count? (digits : List Char) : Option Nat :=
  if digits.isEmpty then none
  else
    let n := digits.foldl (fun n c => 10 * n + (c.toNat - 48)) 0
    if n < 0x10000000000000000 then some n else none

/-- The text before a position that is written at its end, and that position. -/
def splitLocated? (cs : List Char) : Option (List Char × Nat × Nat) :=
  let isDigit (c : Char) : Bool := '0' ≤ c && c ≤ '9'
  let back := cs.reverse
  let column := (back.takeWhile isDigit).reverse
  let columnMark := " column ".toList.reverse
  let lineMark := " at line ".toList.reverse
  let beforeColumn := back.dropWhile isDigit
  if columnMark.isPrefixOf beforeColumn then
    let afterLine := beforeColumn.drop columnMark.length
    let line := (afterLine.takeWhile isDigit).reverse
    let beforeLine := afterLine.dropWhile isDigit
    if lineMark.isPrefixOf beforeLine then
      match count? line, count? column with
      | some l, some c => some ((beforeLine.drop lineMark.length).reverse, l, c)
      | _, _ => none
    else none
  else none

/-- A refusal in these words.  A position written at the end of them is taken for the
position of the refusal, and line 0 for none. -/
def ofMessage (text : String) : Error :=
  match splitLocated? text.toList with
  | some (before, line, column) =>
    refused (String.ofList before) (if line = 0 then none else some ⟨line, column⟩)
  | none => refused text none

/-- The error, at this position if it has none. -/
def locate (p : Position) : Error → Error
  | refused text none => refused text (some p)
  | e => e

end Error

end MatchCriteria.Json
