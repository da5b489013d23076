import MatchCriteria.Text.Utf8

/-!
# Arguments

An argument of a command line is a sequence of bytes that need not be a text.  What it looks
like says how it is read: it ends the options, names an option by a word or by a letter, or
is a value.
-/

namespace MatchCriteria.CommandLine

/-- The characters of an argument; `none` stands for bytes that are no character. -/
abbrev Argument := List (Option Char)

namespace Argument

/-- The argument that is a text. -/
def ofString (text : String) : Argument := text.toList.map some

/-- The argument of a sequence of bytes. -/
def ofBytes (bytes : ByteArray) : Argument :=
  match String.fromUTF8? bytes with
  | some text => ofString text
  | none => Text.characters bytes.data.toList

/-- The text that an argument is, if it is one. -/
def text? (a : Argument) : Option String := (a.mapM id).map String.ofList

/-- An argument as it is shown, with a replacement for what is no character. -/
def shown (a : Argument) : String := String.ofList (a.map fun c => c.getD '\ufffd')

@[simp]
theorem text?_ofString (text : String) :
  (ofString text).text? = some text
  := by
  have mapM_some (cs : List Char) : (cs.map some).mapM id = some cs := by
    induction cs with
    | nil => rfl
    | cons c cs ih => simp [ih]
  simp [text?, ofString, mapM_some]

/-- An argument that is a text is known by its bytes. -/
theorem ofBytes_toUTF8 (text : String) :
  ofBytes text.toUTF8 = ofString text
  := by
  unfold ofBytes
  rw [Text.fromUTF8?_toUTF8]

end Argument

/-- What an argument looks like. -/
inductive Shape where
  /-- Two hyphens, after which there are only values. -/
  | terminator
  /-- A word after two hyphens, and what follows an equals sign in it. -/
  | long (name : Argument) (value : Option Argument)
  /-- A letter after one hyphen, and what follows the letter. -/
  | short (letter : Option Char) (rest : Argument)
  /-- Anything else; one hyphen is a value too. -/
  | value
  deriving DecidableEq, Repr

/-- The word of a long argument and what follows its first equals sign. -/
def splitAtEquals (a : Argument) : Argument × Option Argument :=
  let (name, rest) := a.span fun c => c ≠ some '='
  (name, rest.tail?)

/-- What an argument looks like. -/
def Argument.shape : Argument → Shape
  | [some '-', some '-'] => .terminator
  | some '-' :: some '-' :: word =>
    let (name, value) := splitAtEquals word
    .long name value
  | some '-' :: letter :: rest => .short letter rest
  | _ => .value

end MatchCriteria.CommandLine
