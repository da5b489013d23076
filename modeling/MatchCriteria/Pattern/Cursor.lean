import MatchCriteria.Number.Hex
import MatchCriteria.Pattern.Tree
import MatchCriteria.Text.Blank

/-!
# Reading the parts of a pattern

A cursor stands in a pattern: it has what is left, the index of the next character, and
whether blanks and comments are ignored there.  The readers of this module take the parts
that hold no pattern themselves: escapes, numbers, flags and names.
-/

namespace MatchCriteria.Pattern

/-- A place in a pattern, and what has been met before it. -/
structure Cursor where
  /-- What is left of the pattern. -/
  rest : List Char
  /-- The index of the next character. -/
  index : Nat
  /-- Whether blanks and comments are ignored. -/
  extended : Bool
  /-- The names of the groups so far, and where they stand. -/
  names : List (List Char × Span)

/-- What is left after the blanks and comments that come first, and its index. -/
def skipIgnored : Bool → List Char → Nat → List Char × Nat
  | _, [], i => ([], i)
  | true, c :: cs, i => skipIgnored (c ≠ '\n') cs (i + 1)
  | false, c :: cs, i =>
    if Text.isBlank c then skipIgnored false cs (i + 1)
    else if c = '#' then skipIgnored true cs (i + 1)
    else (c :: cs, i)

/-- What a dot, an escape or a character by itself denotes. -/
inductive Atom where
  | literal (l : Literal)
  | dot (span : Span)
  | assertion (span : Span) (kind : Assertion)
  | short (span : Span) (kind : ShortClass) (negated : Bool)
  | unicode (span : Span) (query : Query) (negated : Bool)

/-- Where an atom stands. -/
def Atom.span : Atom → Span
  | literal l => l.span
  | dot s => s
  | assertion s _ => s
  | short s _ _ => s
  | unicode s _ _ => s

namespace Cursor

/-- The cursor at the start of a pattern. -/
def start (pattern : List Char) : Cursor := ⟨pattern, 0, false, []⟩

/-- The cursor after the next character. -/
def bump (c : Cursor) : Cursor :=
  match c.rest with
  | [] => c
  | _ :: rest => { c with rest, index := c.index + 1 }

/-- The cursor after what is ignored. -/
def skip (c : Cursor) : Cursor :=
  if c.extended then
    let (rest, index) := skipIgnored false c.rest c.index
    { c with rest, index }
  else c

/-- The cursor after the next character and what is ignored after it. -/
def next (c : Cursor) : Cursor := c.bump.skip

/-- Whether nothing is left. -/
def atEnd (c : Cursor) : Bool := c.rest.isEmpty

/-- The empty place at the cursor. -/
def point (c : Cursor) : Span := ⟨c.index, c.index⟩

/-- The place of the next character. -/
def char (c : Cursor) : Span := ⟨c.index, c.index + 1⟩

/-- The place from an index up to the cursor. -/
def since (c : Cursor) (start : Nat) : Span := ⟨start, c.index⟩

/-- A fault at a place. -/
def fail {α : Type} (cause : Cause) (span : Span) : Except Fault α := .error { cause, span }

/-- The cursor after a text, if the text comes next. -/
def take? (text : List Char) (c : Cursor) : Option Cursor :=
  if text.isPrefixOf c.rest then
    some { c with rest := c.rest.drop text.length, index := c.index + text.length }
  else none

/-- The characters that satisfy a test, from the next one on, without what is ignored
between them; and the cursor at the first that does not.  The fuel bounds them. -/
def collect (test : Char → Bool) : Nat → Cursor → List Char × Cursor
  | 0, c => ([], c)
  | fuel + 1, c =>
    match c.rest with
    | [] => ([], c)
    | ch :: _ =>
      if test ch then
        let (more, d) := collect test fuel c.next
        (ch :: more, d)
      else ([], c)

/-- The cursor after the blanks that come next. -/
def skipBlanks (c : Cursor) : Cursor :=
  let rest := c.rest.dropWhile Text.isBlank
  { c with rest, index := c.index + (c.rest.length - rest.length) }

/-- Whether a character is a hexadecimal digit. -/
def isHexDigit (ch : Char) : Bool := (Number.Hex.digit? ch).isSome

/-- Whether a character is a decimal digit. -/
def isDigit (ch : Char) : Bool := '0' ≤ ch && ch ≤ '9'

/-- Whether a number is that of a character. -/
def isScalar (n : Nat) : Bool := n < 0xD800 || (0xDFFF < n && n ≤ 0x10FFFF)

/-! ## Numbers -/

/-- The greatest count of a repetition, and the greatest number of an escape, are below
this. -/
def wordBound : Nat := 0x100000000

/-- Reads a decimal number of a repetition.  Blanks around it do not count. -/
def decimal (c : Cursor) : Except Fault Nat × Cursor :=
  let c := c.skipBlanks
  let (digits, d) := collect isDigit c.rest.length c
  let span := d.since c.index
  let (_, after) := collect Text.isBlank d.rest.length d
  if digits.isEmpty then (fail .repetitionCountMissing span, after)
  else
    let n := digits.foldl (fun n ch => 10 * n + (ch.toNat - 48)) 0
    if n < wordBound then (.ok n, after) else (fail .decimalInvalid span, after)

/-- The character of the hexadecimal digits of an escape. -/
def hexChar? (digits : List Char) : Option Char :=
  match Number.Hex.digits? 0 digits with
  | some n => if isScalar n then some (Char.ofNat n) else none
  | none => none

/-- Reads a fixed number of hexadecimal digits, the first of which comes next. -/
def fixedDigits : Nat → Cursor → Except Fault (List Char × Cursor)
  | 0, c => .ok ([], c)
  | n + 1, c =>
    match c.rest with
    | [] => fail .escapeUnfinished c.point
    | ch :: _ =>
      if isHexDigit ch then do
        let (more, d) ← fixedDigits n c.next
        return (ch :: more, d)
      else fail .escapeHexInvalidDigit c.char

/-- Reads the digits of an escape with `width` digits or with braces, from the letter on; the
escape began at `start`. -/
def hexEscape (start width : Nat) (c : Cursor) : Except Fault (Literal × Cursor) :=
  let c := c.next
  match c.rest with
  | [] => fail .escapeUnfinished c.point
  | '\x7b' :: _ =>
    let (digits, d) := collect isHexDigit c.rest.length c.next
    match d.rest with
    | [] => fail .escapeUnfinished (d.since c.index)
    | '\x7d' :: _ =>
      let e := d.next
      if digits.isEmpty then fail .escapeHexEmpty (e.since c.index)
      else
        match hexChar? digits with
        | none => fail .escapeHexInvalid (d.since (c.index + 1))
        | some ch => .ok (⟨e.since start, ch, false⟩, e)
    | _ :: _ => fail .escapeHexInvalidDigit d.char
  | _ :: _ => do
    let (digits, d) ← fixedDigits width c
    match hexChar? digits with
    | none => fail .escapeHexInvalid (d.since c.index)
    | some ch => return (⟨d.since start, ch, width = 2⟩, d)

/-! ## Classes by name -/

/-- The query of the text between braces.  The separator `!=` is looked for before `:`, and
this one before `=`. -/
def queryOf (text : List Char) : Query :=
  let cut (separator : List Char) (differs : Bool) : Option Query :=
    let n := (List.range (text.length + 1)).find? fun i => separator.isPrefixOf (text.drop i)
    n.map fun i =>
      .valued (String.ofList (text.take i)) (String.ofList (text.drop (i + separator.length)))
        differs
  match (cut ['!', '='] true).orElse fun _ =>
    (cut [':'] false).orElse fun _ => cut ['='] false with
  | some query => query
  | none => .named (String.ofList text)

/-- Reads the query of a class of code points, from its letter on. -/
def unicodeQuery (c : Cursor) : Except Fault (Query × Cursor) :=
  let c := c.next
  match c.rest with
  | [] => fail .escapeUnfinished c.point
  | '\x7b' :: _ =>
    let (name, d) := collect (· ≠ '\x7d') c.rest.length c.next
    if d.atEnd then fail .escapeUnfinished d.point else .ok (queryOf name, d.bump)
  | '\\' :: _ => fail .unicodeClassInvalid c.char
  | ch :: _ => .ok (.named (String.singleton ch), c.next)

/-- The class that a letter names, and whether the letter negates it. -/
def shortClass? : Char → Option (ShortClass × Bool)
  | 'd' => some (.digit, false)
  | 's' => some (.space, false)
  | 'w' => some (.word, false)
  | 'D' => some (.digit, true)
  | 'S' => some (.space, true)
  | 'W' => some (.word, true)
  | _ => none

/-- The class that a name between colons denotes. -/
def namedClass? (name : List Char) : Option NamedClass :=
  match String.ofList name with
  | "alnum" => some .alnum
  | "alpha" => some .alpha
  | "ascii" => some .ascii
  | "blank" => some .blank
  | "cntrl" => some .cntrl
  | "digit" => some .digit
  | "graph" => some .graph
  | "lower" => some .lower
  | "print" => some .print
  | "punct" => some .punct
  | "space" => some .space
  | "upper" => some .upper
  | "word" => some .word
  | "xdigit" => some .xdigit
  | _ => none

/-- Reads a class with a name between colons, from its bracket on, if one comes next. -/
def namedClass (c : Cursor) : Option (ClassSet × Cursor) := do
  let d ← c.take? ['[', ':']
  let (negated, d) := match d.take? ['^'] with
    | some d => (true, d)
    | none => (false, d)
  let name := d.rest.takeWhile (· ≠ ':')
  let d := { d with rest := d.rest.drop name.length, index := d.index + name.length }
  let d ← d.take? [':', ']']
  let kind ← namedClass? name
  return (.named (d.since c.index) kind negated, d)

/-! ## Escapes -/

/-- The characters that stand for themselves only after a backslash, or in some places. -/
def isMeta (ch : Char) : Bool :=
  ['\\', '.', '+', '*', '?', '(', ')', '|', '[', ']', '\x7b', '\x7d', '^', '$', '#', '&', '-',
    '~'].contains ch

/-- Whether a backslash before the character makes it stand for itself: the marks of ASCII,
angle brackets apart. -/
def isEscapable (ch : Char) : Bool :=
  isMeta ch || (ch.toNat < 0x80 && !ch.isAlphanum && ch ≠ '<' && ch ≠ '>')

/-- The character that a letter after a backslash denotes. -/
def control? : Char → Option Char
  | 'a' => some '\x07'
  | 'f' => some '\x0c'
  | 't' => some '\t'
  | 'n' => some '\n'
  | 'r' => some '\r'
  | 'v' => some '\x0b'
  | _ => none

/-- The assertion that a character after a backslash denotes. -/
def assertion? : Char → Option Assertion
  | 'A' => some .textStart
  | 'z' => some .textEnd
  | 'b' => some .wordBoundary
  | 'B' => some .notWordBoundary
  | '<' => some .wordStart
  | '>' => some .wordEnd
  | _ => none

/-- The assertion that a name in braces denotes. -/
def namedAssertion? (name : List Char) : Option Assertion :=
  match String.ofList name with
  | "start" => some .wordStart
  | "end" => some .wordEnd
  | "start-half" => some .wordStartHalf
  | "end-half" => some .wordEndHalf
  | _ => none

/-- Reads the name in braces after a word boundary that began at `start`.  What follows the
brace may also be the count of a repetition: then there is no name. -/
def boundaryName (start : Nat) (c : Cursor) : Except Fault (Option Assertion × Cursor) :=
  let isNameChar (ch : Char) : Bool := ch.isAlpha || ch = '-'
  let d := c.next
  match d.rest with
  | [] => fail .boundaryOrRepetitionUnclosed (d.since start)
  | ch :: _ =>
    if isNameChar ch then
      let (name, e) := collect isNameChar d.rest.length d
      match e.rest with
      | '\x7d' :: _ =>
        match namedAssertion? name with
        | some kind => .ok (some kind, e.bump)
        | none => fail .boundaryUnrecognized (e.since d.index)
      | _ => fail .boundaryUnclosed (e.since c.index)
    else .ok (none, c)

/-- Reads an escape, from its backslash on. -/
def escape (c : Cursor) : Except Fault (Atom × Cursor) :=
  let start := c.index
  let c := c.bump
  match c.rest with
  | [] => fail .escapeUnfinished (c.since start)
  | ch :: _ =>
    let hex (width : Nat) : Except Fault (Atom × Cursor) := do
      let (l, d) ← hexEscape start width c
      return (.literal l, d)
    let unicode (negated : Bool) : Except Fault (Atom × Cursor) := do
      let (query, d) ← unicodeQuery c
      return (.unicode (d.since start) query negated, d)
    if isDigit ch then fail .backreference ⟨start, c.index + 1⟩
    else if ch = 'x' then hex 2
    else if ch = 'u' then hex 4
    else if ch = 'U' then hex 8
    else if ch = 'p' then unicode false
    else if ch = 'P' then unicode true
    else
      let d := c.bump
      let span := d.since start
      match shortClass? ch with
      | some (kind, negated) => .ok (.short span kind negated, d)
      | none =>
        if isEscapable ch then .ok (.literal ⟨span, ch, false⟩, d)
        else
          match control? ch, assertion? ch with
          | some control, _ => .ok (.literal ⟨span, control, false⟩, d)
          | none, some .wordBoundary =>
            match d.rest with
            | '\x7b' :: _ => do
              match ← boundaryName start d with
              | (some kind, e) => return (.assertion (e.since start) kind, e)
              | (none, e) => return (.assertion span .wordBoundary, e)
            | _ => .ok (.assertion span .wordBoundary, d)
          | none, some kind => .ok (.assertion span kind, d)
          | none, none => fail .escapeUnrecognized span

/-! ## Flags and names of groups -/

/-- The flag of a letter. -/
def flag? : Char → Option Flag
  | 'i' => some .caseInsensitive
  | 'm' => some .multiLine
  | 's' => some .dotMatchesNewLine
  | 'U' => some .swapGreed
  | 'u' => some .unicode
  | 'R' => some .crlf
  | 'x' => some .ignoreBlanks
  | _ => none

/-- Reads flags up to the colon or the parenthesis that ends them, after the ones before,
last one first.  The fuel bounds the flags. -/
def flags : Nat → List (FlagItem × Span) → Cursor → Except Fault (List FlagItem × Cursor)
  | 0, _, c => fail .flagUnfinished c.point
  | fuel + 1, before, c =>
    match c.rest with
    | [] => fail .flagUnfinished c.point
    | ch :: _ =>
      if ch = ':' || ch = ')' then
        match before with
        | (.negation, span) :: _ => fail .flagDanglingNegation span
        | _ => .ok ((before.map fun item => item.1).reverse, c)
      else
        let add (item : FlagItem) (clash : Cause) : Except Fault (List FlagItem × Cursor) :=
          match before.find? fun earlier => earlier.1 = item with
          | some (_, earlier) =>
            .error { cause := clash, span := c.char, earlier := some earlier }
          | none => flags fuel ((item, c.char) :: before) c.bump
        if ch = '-' then add .negation .flagRepeatedNegation
        else
          match flag? ch with
          | some f => add (.flag f) .flagDuplicate
          | none => fail .flagUnrecognized c.char

/-- Reads the name of a group and the bracket after it.  `isStart` and `isContinuing` tell
the characters that may start and continue a name. -/
def groupName (isStart isContinuing : Char → Bool) (c : Cursor) : Except Fault Cursor :=
  if c.atEnd then fail .groupNameUnclosed c.point
  else
    let allowed (first : Bool) (ch : Char) : Bool :=
      if first then isStart ch else isContinuing ch
    let name := c.rest.takeWhile (· ≠ '>')
    let bad := (name.zipIdx.find? fun (ch, i) => !allowed (i = 0) ch)
    match bad with
    | some (_, i) => fail .groupNameInvalid ⟨c.index + i, c.index + i + 1⟩
    | none =>
      let d := { c with rest := c.rest.drop name.length, index := c.index + name.length }
      if d.atEnd then fail .groupNameUnclosed d.point
      else if name.isEmpty then fail .groupNameEmpty c.point
      else
        let span := d.since c.index
        match c.names.find? fun earlier => earlier.1 = name with
        | some (_, earlier) =>
          .error { cause := .groupNameDuplicate, span, earlier := some earlier }
        | none => .ok { d.bump with names := (name, span) :: c.names }

end Cursor

end MatchCriteria.Pattern
