import MatchCriteria.Json.Fault
import MatchCriteria.Json.Value
import MatchCriteria.Number.Hex
import MatchCriteria.Number.Shortest
import MatchCriteria.Text.Quoted

/-!
# Reading JSON

A reader takes what is left of a text and gives what it read with what is left after it.
Values nest at most 127 deep.  `read` takes a whole text; `readList` takes a text that is an
array and gives each item to a function that may refuse it, so that the first refusal stops
the reading; `readMembers` takes a text that is an object.
-/

namespace MatchCriteria.Json

/-- A reader: from what is left of a text, a result and what is left after it. -/
abbrev Reader (α : Type) := List Char → Except Fault (α × List Char)

/-- Whether JSON allows the character between its parts. -/
def isBlank (c : Char) : Bool := c = ' ' || c = '\n' || c = '\t' || c = '\r'

/-- The text without the blanks it starts with. -/
def skipBlank (cs : List Char) : List Char := cs.dropWhile isBlank

/-! ## Words -/

/-- Reads the characters of a word. -/
def word (expected : List Char) (cs : List Char) : Except Fault (List Char) :=
  match expected, cs with
  | [], cs => .ok cs
  | _ :: _, [] => .error (.here .unfinishedValue [])
  | e :: expected, c :: cs =>
    if c = e then word expected cs else .error (.next .expectedWord (c :: cs))

/-! ## Strings -/

/-- Reads the four digits of an escape.  Four bytes are taken whatever they are. -/
def fourDigits : Reader Nat
  | a :: b :: c :: d :: rest =>
    match Number.Hex.digits? 0 [a, b, c, d] with
    | some n => .ok (n, rest)
    | none => .error ⟨.invalidEscape, ⟨a :: b :: c :: d :: rest, 4⟩⟩
  | cs =>
    if Text.utf8Length cs < 4 then .error (.here .unfinishedString [])
    else .error ⟨.invalidEscape, ⟨cs, 4⟩⟩

/-- Reads the second of two escapes that denote one character, the first of which denotes
`high`. -/
def lowSurrogate (high : Nat) : Reader Char
  | [] => .error (.here .unfinishedString [])
  | '\\' :: [] => .error (.here .unfinishedString [])
  | '\\' :: 'u' :: cs => do
    let (low, rest) ← fourDigits cs
    if 0xDC00 ≤ low ∧ low ≤ 0xDFFF then
      return (Char.ofNat (0x10000 + (high - 0xD800) * 0x400 + (low - 0xDC00)), rest)
    else throw (.here .loneSurrogate rest)
  | '\\' :: cs => .error (.next .unfinishedSurrogates cs)
  | cs => .error (.next .unfinishedSurrogates cs)

/-- Reads an escape after its backslash. -/
def escape : Reader Char
  | [] => .error (.here .unfinishedString [])
  | '"' :: cs => .ok ('"', cs)
  | '\\' :: cs => .ok ('\\', cs)
  | '/' :: cs => .ok ('/', cs)
  | 'b' :: cs => .ok ('\x08', cs)
  | 'f' :: cs => .ok ('\x0c', cs)
  | 'n' :: cs => .ok ('\n', cs)
  | 'r' :: cs => .ok ('\r', cs)
  | 't' :: cs => .ok ('\t', cs)
  | 'u' :: cs => do
    let (n, rest) ← fourDigits cs
    if 0xDC00 ≤ n ∧ n ≤ 0xDFFF then throw (.here .loneSurrogate rest)
    else if 0xD800 ≤ n ∧ n ≤ 0xDBFF then lowSurrogate n rest
    else return (Char.ofNat n, rest)
  | cs => .error (.next .invalidEscape cs)

/-- Reads characters up to and with the closing quote.  The fuel bounds the characters. -/
def characters : Nat → Reader (List Char)
  | _, [] => .error (.here .unfinishedString [])
  | _, '"' :: cs => .ok ([], cs)
  | 0, cs => .error (.here .unfinishedString cs)
  | fuel + 1, '\\' :: cs => do
    let (c, rest) ← escape cs
    let (more, rest) ← characters fuel rest
    return (c :: more, rest)
  | fuel + 1, c :: cs =>
    if c.toNat < 0x20 then .error (.next .controlCharacter (c :: cs))
    else do
      let (more, rest) ← characters fuel cs
      return (c :: more, rest)

/-- Reads a string after its opening quote. -/
def string : Reader String := fun cs => do
  let (characters, rest) ← characters cs.length cs
  return (String.ofList characters, rest)

/-! ## Numbers -/

/-- Whether the character is a decimal digit. -/
def isDigit (c : Char) : Bool := '0' ≤ c && c ≤ '9'

/-- The value of a decimal digit. -/
def digitValue (c : Char) : Nat := c.toNat - 48

/-- The digits of a number that go into a word of 64 bits after `acc`, and what is left: the
digits from the first that no longer fits on, and the text after them. -/
def significand (acc : Nat) : List Char → Nat × List Char
  | [] => (acc, [])
  | c :: cs =>
    if isDigit c && 10 * acc + digitValue c < 0x10000000000000000 then
      significand (10 * acc + digitValue c) cs
    else (acc, c :: cs)

/-- A positive power of ten in double precision. -/
def powerOfTen (n : Nat) : Float := Float.ofScientific 1 false n

/-- The number `f * 10 ^ exponent`, computed in double precision; `none` if it is too large.
The steps make room for exponents that double precision cannot hold. -/
def scale : Nat → Float → Int → Option Float
  | 0, f, _ => some f
  | steps + 1, f, exponent =>
    if exponent.natAbs ≤ 308 then
      if 0 ≤ exponent then
        let g := f * powerOfTen exponent.natAbs
        if g.isInf then none else some g
      else some (f / powerOfTen exponent.natAbs)
    else if f == 0.0 then some f
    else if 0 ≤ exponent then none
    else scale steps (f / powerOfTen 308) (exponent + 308)

/-- The floating-point value of a sign, a significand and a power of ten. -/
def float (negative : Bool) (digits : Nat) (exponent : Int) (rest : List Char) :
    Except Fault (Value × List Char) :=
  match scale (exponent.natAbs + 1) digits.toUInt64.toFloat exponent with
  | some f => .ok (.float (if negative then -f else f), rest)
  | none => .error (.here .numberOutOfRange rest)

/-- An exponent is kept below this. -/
def exponentBound : Nat := 0x80000000

/-- Reads the digits of an exponent after `acc`: the exponent, or none when it is too large;
and what is left. -/
def exponentDigits (acc : Nat) : List Char → Option Nat × List Char
  | [] => (some acc, [])
  | c :: cs =>
    if isDigit c then
      if 10 * acc + digitValue c < exponentBound then
        exponentDigits (10 * acc + digitValue c) cs
      else (none, cs)
    else (some acc, c :: cs)

/-- Reads an exponent after its letter, for a number whose point has moved it by `moved`. -/
def exponent (negative : Bool) (digits : Nat) (moved : Int) : Reader Value := fun cs =>
  let (down, cs) : Bool × List Char :=
    match cs with
    | '+' :: cs => (false, cs)
    | '-' :: cs => (true, cs)
    | cs => (false, cs)
  match cs with
  | [] => .error (.here .unfinishedValue [])
  | c :: rest =>
    if isDigit c then
      match exponentDigits (digitValue c) rest with
      | (some n, rest) =>
        float negative digits (if down then moved - n else moved + n) rest
      | (none, rest) =>
        if digits ≠ 0 ∧ !down then .error (.here .numberOutOfRange rest)
        else
          .ok (.float (if negative then -0.0 else 0.0), rest.dropWhile isDigit)
    else .error (.next .invalidNumber (c :: rest))

/-- Reads an exponent if there is one. -/
def exponent? (negative : Bool) (digits : Nat) (moved : Int) : Reader Value
  | 'e' :: cs => exponent negative digits moved cs
  | 'E' :: cs => exponent negative digits moved cs
  | cs => float negative digits moved cs

/-- Reads a fraction after its point, for a number of whose digits `dropped` are left out. -/
def fraction (negative : Bool) (digits dropped : Nat) : Reader Value := fun cs =>
  match cs with
  | [] => .error (.next .unfinishedValue [])
  | c :: _ =>
    if isDigit c then
      let (all, rest) := significand digits cs
      exponent? negative all ((dropped : Int) - (cs.length - rest.length : Nat))
        (rest.dropWhile isDigit)
    else .error (.next .invalidNumber cs)

/-- Reads a number after its sign. -/
def number (negative : Bool) : Reader Value
  | [] => .error (.here .unfinishedValue [])
  | c :: cs =>
    if isDigit c then
      let (digits, rest) := if c = '0' then (0, cs) else significand 0 (c :: cs)
      if c = '0' ∧ rest.head?.any isDigit then .error (.next .invalidNumber rest)
      else
        let more := rest.takeWhile isDigit
        match rest.dropWhile isDigit with
        | '.' :: after => fraction negative digits more.length after
        | 'e' :: after => exponent negative digits more.length after
        | 'E' :: after => exponent negative digits more.length after
        | after =>
          let signed : Int := if negative then -(digits : Int) else digits
          match Integer.ofInt? signed with
          | some n =>
            if more.isEmpty ∧ !(negative ∧ digits = 0) then .ok (.integer n, after)
            else float negative digits more.length after
          | none => float negative digits more.length after
    else .error (.next .invalidNumber (c :: cs))

/-! ## Arrays and objects -/

/-- Reads the items of an array from the first on, and the closing bracket.  The fuel bounds
the items. -/
def items {ε α : Type} (fault : Fault → ε) (item : List Char → Except ε (α × List Char)) :
    Nat → List Char → Except ε (List α × List Char)
  | 0, cs => .error (fault (.next .unfinishedList cs))
  | fuel + 1, cs => do
    let (x, rest) ← item cs
    match skipBlank rest with
    | [] => throw (fault (.next .unfinishedList []))
    | ']' :: rest => return ([x], rest)
    | ',' :: rest =>
      match skipBlank rest with
      | [] => throw (fault (.next .unfinishedValue []))
      | ']' :: rest => throw (fault (.next .trailingComma (']' :: rest)))
      | rest => do
        let (xs, rest) ← items fault item fuel rest
        return (x :: xs, rest)
    | rest => throw (fault (.next .expectedListSeparator rest))

/-- Reads an array after its opening bracket. -/
def array {ε α : Type} (fault : Fault → ε) (item : List Char → Except ε (α × List Char))
    (cs : List Char) : Except ε (List α × List Char) :=
  match skipBlank cs with
  | [] => .error (fault (.next .unfinishedList []))
  | ']' :: rest => .ok ([], rest)
  | rest => items fault item rest.length rest

/-- Reads a colon and the value after it. -/
def afterName (value : Reader Value) : Reader Value := fun cs =>
  match skipBlank cs with
  | [] => .error (.next .unfinishedObject [])
  | ':' :: rest => value rest
  | rest => .error (.next .expectedColon rest)

/-- Reads the members of an object from the first on, after its opening quote, and the
closing brace.  The fuel bounds the members. -/
def members (value : Reader Value) : Nat → Reader (List (String × Value))
  | 0, cs => .error (.next .unfinishedObject cs)
  | fuel + 1, cs => do
    let (name, rest) ← string cs
    let (v, rest) ← afterName value rest
    match skipBlank rest with
    | [] => throw (.next .unfinishedObject [])
    | '\x7d' :: rest => return ([(name, v)], rest)
    | ',' :: rest =>
      match skipBlank rest with
      | [] => throw (.next .unfinishedValue [])
      | '"' :: rest => do
        let (more, rest) ← members value fuel rest
        return ((name, v) :: more, rest)
      | '\x7d' :: rest => throw (.next .trailingComma ('\x7d' :: rest))
      | rest => throw (.next .nameNotString rest)
    | rest => throw (.next .expectedMemberSeparator rest)

/-- Reads an object after its opening brace. -/
def object (value : Reader Value) : Reader (List (String × Value)) := fun cs =>
  match skipBlank cs with
  | [] => .error (.next .unfinishedObject [])
  | '\x7d' :: rest => .ok ([], rest)
  | '"' :: rest => members value rest.length rest
  | rest => .error (.next .nameNotString rest)

/-! ## Values -/

/-- Reads a value, where arrays and objects are read by the readers given. -/
def valueBy (array : Reader (List Value)) (object : Reader (List (String × Value))) :
    Reader Value := fun cs =>
  match skipBlank cs with
  | [] => .error (.next .unfinishedValue [])
  | 'n' :: rest => do return (.null, ← word "ull".toList rest)
  | 't' :: rest => do return (.boolean true, ← word "rue".toList rest)
  | 'f' :: rest => do return (.boolean false, ← word "alse".toList rest)
  | '"' :: rest => do
    let (s, rest) ← string rest
    return (.string s, rest)
  | '[' :: rest => do
    let (xs, rest) ← array rest
    return (.array xs, rest)
  | '\x7b' :: rest => do
    let (ms, rest) ← object rest
    return (.object ms, rest)
  | '-' :: rest => number true rest
  | c :: rest =>
    if isDigit c then number false (c :: rest)
    else .error (.next .expectedValue (c :: rest))

/-- Reads a value in which arrays and objects nest at most `depth` deep. -/
def value : Nat → Reader Value
  | 0 =>
    valueBy (fun cs => .error (.next .nestedTooDeeply ('[' :: cs)))
      (fun cs => .error (.next .nestedTooDeeply ('\x7b' :: cs)))
  | depth + 1 => valueBy (array id (value depth)) (object (value depth))

/-- How deep arrays and objects nest at most. -/
def depthLimit : Nat := 127

/-! ## Whole texts -/

/-- The error of a fault in a text. -/
def Fault.error (text : List Char) (f : Fault) : Error :=
  .malformed f.complaint (f.mark.position text)

/-- The end of a text after what was read from it. -/
def finish (text : List Char) {α : Type} (x : α) (rest : List Char) : Except Error α :=
  match skipBlank rest with
  | [] => .ok x
  | rest => .error ((Fault.next .trailingCharacters rest).error text)

/-- The value that a text denotes. -/
def read (text : String) : Except Error Value :=
  let cs := text.toList
  match value depthLimit cs with
  | .ok (v, rest) => finish cs v rest
  | .error f => .error (f.error cs)

/-- The result of a function on the value that a text denotes.  Where the function refuses
the value, in these words, what follows the value in the text is not looked at. -/
def readAs {α : Type} (convert : Value → Except String α) (text : String) :
    Except Error α :=
  let cs := text.toList
  match value depthLimit cs with
  | .ok (v, rest) =>
    match convert v with
    | .ok x => finish cs x rest
    | .error refusal => .error (.ofMessage refusal)
  | .error f => .error (f.error cs)

/-- How a value that is not of the shape asked for is shown. -/
def Value.shown : Value → String
  | .null => "null"
  | .boolean true => "boolean `true`"
  | .boolean false => "boolean `false`"
  | .integer n => "integer `" ++ toString n.val ++ "`"
  | .float x => "floating point `" ++ Number.doubleText x ++ "`"
  | .string s => "string " ++ Text.quoted s
  | .array _ => "sequence"
  | .object _ => "map"

/-- The refusal of a value of another shape at a mark. -/
def wrongShape (text : List Char) (shown expected : String) (m : Mark) : Error :=
  .refused ("invalid type: " ++ shown ++ ", expected a " ++ expected) (m.position text)

/-- The refusal of a text that does not start as an array or object is expected to.  A value
without parts is read first. -/
def refuseShape {α : Type} (text : List Char) (expected : String) (cs : List Char) :
    Except Error α :=
  match cs with
  | '[' :: _ => .error (wrongShape text "sequence" expected ⟨cs, 0⟩)
  | '\x7b' :: _ => .error (wrongShape text "map" expected ⟨cs, 0⟩)
  | cs =>
    match value 0 cs with
    | .ok (v, rest) => .error (wrongShape text v.shown expected ⟨rest, 0⟩)
    | .error f => .error (f.error text)

/-- Why an item of a list is not taken. -/
inductive ItemError where
  /-- The text is not JSON. -/
  | fault (f : Fault)
  /-- The item is refused in these words; what follows it in the text is given. -/
  | refused (text : String) (rest : List Char)

/-- Reads a value and gives it to a function. -/
def item {α : Type} (convert : Value → Except String α) (depth : Nat) (cs : List Char) :
    Except ItemError (α × List Char) :=
  match value depth cs with
  | .error f => .error (.fault f)
  | .ok (v, rest) =>
    match convert v with
    | .ok x => .ok (x, rest)
    | .error text => .error (.refused text rest)

/-- Where reading stands after an item that was refused: after the bracket that closes the
list, or after the comma and the blanks that follow it. -/
def afterRefused (rest : List Char) : List Char :=
  match skipBlank rest with
  | ']' :: rest => rest
  | ',' :: rest => skipBlank rest
  | rest => rest

/-- The error of an item of a list. -/
def ItemError.error (text : List Char) : ItemError → Error
  | fault f => f.error text
  | refused refusal rest =>
    (Error.ofMessage refusal).locate ((Mark.mk (afterRefused rest) 0).position text)

/-- The results of a function on the items of the array that a text denotes. -/
def readList {α : Type} (convert : Value → Except String α) (text : String) :
    Except Error (List α) :=
  let cs := text.toList
  match skipBlank cs with
  | [] => .error ((Fault.next .unfinishedValue []).error cs)
  | '[' :: rest =>
    match array .fault (item convert (depthLimit - 1)) rest with
    | .ok (xs, rest) => finish cs xs rest
    | .error e => .error (e.error cs)
  | rest => refuseShape cs "sequence" rest

/-- The members of the object that a text denotes. -/
def readMembers (text : String) : Except Error (List (String × Value)) :=
  let cs := text.toList
  match skipBlank cs with
  | [] => .error ((Fault.next .unfinishedValue []).error cs)
  | '\x7b' :: rest =>
    match object (value (depthLimit - 1)) rest with
    | .ok (ms, rest) => finish cs ms rest
    | .error f => .error (f.error cs)
  | rest => refuseShape cs "map" rest

end MatchCriteria.Json
