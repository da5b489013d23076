import MatchCriteria.Json.Value
import MatchCriteria.Number.Hex
import MatchCriteria.Number.Shortest

/-!
# Writing JSON

A value is written on one line without blanks, or over several lines with each item and
member on a line of its own, two blanks deeper than what holds it.  In a string the quote,
the backslash and the control characters are escaped, and nothing else.
-/

namespace MatchCriteria.Json

/-- A character as it stands in a string. -/
def stringChar (c : Char) : List Char :=
  match c with
  | '"' => ['\\', '"']
  | '\\' => ['\\', '\\']
  | '\x08' => ['\\', 'b']
  | '\x0c' => ['\\', 'f']
  | '\n' => ['\\', 'n']
  | '\r' => ['\\', 'r']
  | '\t' => ['\\', 't']
  | c =>
    if c.toNat < 0x20 then
      ['\\', 'u', '0', '0', Number.Hex.digit (c.toNat / 16), Number.Hex.digit (c.toNat % 16)]
    else [c]

/-- A string with its quotes. -/
def quote (s : String) : List Char := '"' :: s.toList.flatMap stringChar ++ ['"']

/-- The text of a value that has no parts. -/
def atom : Value → List Char
  | .null => "null".toList
  | .boolean true => "true".toList
  | .boolean false => "false".toList
  | .integer n => (toString n.val).toList
  | .float x => (Number.doubleText x).toList
  | .string s => quote s
  | .array _ => []
  | .object _ => []

mutual

/-- A value on one line. -/
def compact : Value → List Char
  | .array xs => '[' :: compactItems xs ++ [']']
  | .object ms => '\x7b' :: compactMembers ms ++ ['\x7d']
  | v => atom v

/-- Items on one line, with commas between. -/
def compactItems : List Value → List Char
  | [] => []
  | [v] => compact v
  | v :: vs => compact v ++ ',' :: compactItems vs

/-- Members on one line, with commas between. -/
def compactMembers : List (String × Value) → List Char
  | [] => []
  | [(name, v)] => quote name ++ ':' :: compact v
  | (name, v) :: ms => quote name ++ ':' :: compact v ++ ',' :: compactMembers ms

end

/-- The start of a line at a depth. -/
def newLine (depth : Nat) : List Char := '\n' :: List.replicate (2 * depth) ' '

mutual

/-- A value over several lines, at a depth. -/
def pretty (depth : Nat) : Value → List Char
  | .array [] => ['[', ']']
  | .array (v :: vs) => '[' :: prettyItems (depth + 1) (v :: vs) ++ newLine depth ++ [']']
  | .object [] => ['\x7b', '\x7d']
  | .object (m :: ms) =>
    '\x7b' :: prettyMembers (depth + 1) (m :: ms) ++ newLine depth ++ ['\x7d']
  | v => atom v

/-- Items on lines of their own. -/
def prettyItems (depth : Nat) : List Value → List Char
  | [] => []
  | [v] => newLine depth ++ pretty depth v
  | v :: vs => newLine depth ++ pretty depth v ++ ',' :: prettyItems depth vs

/-- Members on lines of their own. -/
def prettyMembers (depth : Nat) : List (String × Value) → List Char
  | [] => []
  | [(name, v)] => newLine depth ++ quote name ++ ':' :: ' ' :: pretty depth v
  | (name, v) :: ms =>
    newLine depth ++ quote name ++ ':' :: ' ' :: pretty depth v ++ ',' :: prettyMembers depth ms

end

/-- The text of a value on one line. -/
def render (v : Value) : String := String.ofList (compact v)

/-- The text of a value over several lines. -/
def renderPretty (v : Value) : String := String.ofList (pretty 0 v)

end MatchCriteria.Json
