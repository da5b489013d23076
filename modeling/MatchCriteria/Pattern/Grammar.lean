import MatchCriteria.Pattern.Cursor
import MatchCriteria.Unicode.Property

/-!
# Reading patterns

A pattern is read from left to right into its tree.  A group is read as a pattern of its own
up to its closing parenthesis, and a class up to its closing bracket.  Every step takes at
least one character, so that the length of the pattern bounds the steps.
-/

namespace MatchCriteria.Pattern

open Cursor

/-! ## Classes in brackets -/

/-- The next character after blanks, and after one `#` among them, behind the character that
comes next. -/
def peekBehind (c : Cursor) : Option Char :=
  let behind := c.rest.drop 1
  if c.extended then
    let rest := behind.dropWhile Text.isBlank
    let rest := match rest with
      | '#' :: rest => rest.dropWhile Text.isBlank
      | rest => rest
    match rest with
    | ch :: _ => some ch
    | [] => behind.head?
  else behind.head?

/-- The members of a class up to some place, last one first, and where a union of them
would begin if there were none. -/
structure Members where
  /-- Where the next member would stand first. -/
  start : Nat
  /-- The members, last one first. -/
  items : List ClassSet

/-- The members as one set. -/
def Members.set (m : Members) : ClassSet :=
  match m.items with
  | [] => .empty ⟨m.start, m.start⟩
  | [item] => item
  | last :: more =>
    let first := (more.getLast?.getD last).span.start
    .union ⟨first, last.span.stop⟩ m.items.reverse

/-- The members with one more. -/
def Members.push (m : Members) (item : ClassSet) : Members :=
  { m with items := item :: m.items }

/-- An operation that waits for the set on its right. -/
structure Pending where
  /-- The operation. -/
  op : SetOperation
  /-- The set on its left. -/
  left : ClassSet

/-- The set of a pending operation and the set on its right. -/
def complete (pending : Option Pending) (right : ClassSet) : ClassSet :=
  match pending with
  | none => right
  | some ⟨op, left⟩ => .binary ⟨left.span.start, right.span.stop⟩ op left right

/-- A class whose opening has been read. -/
structure Opening where
  /-- Where the opening stands. -/
  span : Span
  /-- Whether the class is negated. -/
  negated : Bool
  /-- The members that the opening holds. -/
  members : Members

/-- Reads the dashes that come first in a class.  The fuel bounds them. -/
def openingDashes (start : Nat) : Nat → Members → Cursor → Except Fault (Members × Cursor)
  | 0, m, c => .ok (m, c)
  | fuel + 1, m, c =>
    match c.rest with
    | '-' :: _ =>
      let m := m.push (.literal ⟨c.char, '-', false⟩)
      let d := c.next
      if d.atEnd then fail .unclosedClass ⟨start, start⟩ else openingDashes start fuel m d
    | _ => .ok (m, c)

/-- Reads the opening of a class: the bracket, the sign of negation, and the dashes or the
bracket that stand for themselves there. -/
def opening (c : Cursor) : Except Fault (Opening × Cursor) := do
  let start := c.index
  let c := c.next
  if c.atEnd then fail .unclosedClass (c.since start)
  else
    let negated := c.rest.head? = some '^'
    let c := if negated then c.next else c
    if c.atEnd then fail .unclosedClass (c.since start)
    else
      let (m, d) ← openingDashes start c.rest.length ⟨c.index, []⟩ c
      if m.items.isEmpty ∧ d.rest.head? = some ']' then
        let m := m.push (.literal ⟨d.char, ']', false⟩)
        let e := d.next
        if e.atEnd then fail .unclosedClass (e.since start)
        else return (⟨e.since start, negated, m⟩, e)
      else return (⟨d.since start, negated, m⟩, d)

/-- Reads a character or an escape in a class. -/
def classAtom (c : Cursor) : Except Fault (Atom × Cursor) :=
  match c.rest with
  | '\\' :: _ => escape c
  | ch :: _ => .ok (.literal ⟨c.char, ch, false⟩, c.bump)
  | [] => fail .unclosedClass c.point

/-- An atom as a member of a class. -/
def Atom.member : Atom → Except Fault ClassSet
  | .literal l => .ok (.literal l)
  | .short s kind negated => .ok (.short s kind negated)
  | .unicode s query negated => .ok (.unicode s query negated)
  | a => fail .classEscapeInvalid a.span

/-- An atom as an end of a range. -/
def Atom.rangeEnd : Atom → Except Fault Literal
  | .literal l => .ok l
  | a => fail .classRangeNotLiteral a.span

/-- Reads a member of a class that is no class itself, or a range.  A dash before a bracket
or another dash makes no range. -/
def classMember (opened : Span) (c : Cursor) : Except Fault (ClassSet × Cursor) := do
  let (first, d) ← classAtom c
  let d := d.skip
  if d.atEnd then fail .unclosedClass opened
  else
    let behind := peekBehind d
    if d.rest.head? ≠ some '-' ∨ behind = some ']' ∨ behind = some '-' then
      return (← first.member, d)
    else
      let d := d.next
      if d.atEnd then fail .unclosedClass opened
      else
        let (last, e) ← classAtom d
        let span : Span := ⟨first.span.start, last.span.stop⟩
        let a ← first.rangeEnd
        let b ← last.rangeEnd
        if b.char < a.char then fail .classRangeInvalid span
        else return (.range span a b, e)

/-- Reads a class after its opening, up to and with its closing bracket.  The fuel bounds
the steps. -/
def classBody : Nat → Opening → Option Pending → Members → Cursor →
    Except Fault (ClassSet × Cursor)
  | 0, opened, _, _, _ => fail .unclosedClass opened.span
  | fuel + 1, opened, pending, m, c => do
    let c := c.skip
    let operate (op : SetOperation) : Except Fault (ClassSet × Cursor) :=
      let d := c.bump.bump
      classBody fuel opened (some ⟨op, complete pending m.set⟩) ⟨d.index, []⟩ d
    match c.rest with
    | [] => fail .unclosedClass opened.span
    | '[' :: _ =>
      match namedClass c with
      | some (item, d) => classBody fuel opened pending (m.push item) d
      | none =>
        let (inner, d) ← opening c
        let (item, e) ← classBody fuel inner none inner.members d
        classBody fuel opened pending (m.push item) e
    | ']' :: _ =>
      let d := c.bump
      return (.bracketed (d.since opened.span.start) opened.negated (complete pending m.set), d)
    | '&' :: '&' :: _ => operate .intersection
    | '-' :: '-' :: _ => operate .difference
    | '~' :: '~' :: _ => operate .symmetricDifference
    | _ =>
      let (item, d) ← classMember opened.span c
      classBody fuel opened pending (m.push item) d

/-- Reads a class, from its bracket on. -/
def bracketed (c : Cursor) : Except Fault (Tree × Cursor) := do
  let (opened, d) ← opening c
  let (set, e) ← classBody (d.rest.length + 1) opened none opened.members d
  match set with
  | .bracketed s negated inner => return (.bracketed s negated inner, e)
  | other => return (.bracketed other.span false other, e)

/-! ## Repetitions -/

/-- The tree before a repetition, if it can be repeated, and the trees before that. -/
def operand (c : Cursor) : List Tree → Except Fault (Tree × List Tree)
  | [] => fail .repetitionMissingOperand c.point
  | .empty _ :: _ => fail .repetitionMissingOperand c.point
  | .flags _ _ :: _ => fail .repetitionMissingOperand c.point
  | t :: rest => .ok (t, rest)

/-- The cursor after the mark that reverses what a repetition prefers. -/
def afterPreference (c : Cursor) : Cursor :=
  match c.rest with
  | '?' :: _ => c.bump
  | _ => c

/-- Reads the counts of a repetition and its closing brace, from its opening brace on. -/
def counts (c : Cursor) : Except Fault (Nat × Option Nat × Cursor) := do
  let start := c.index
  let d := c.next
  if d.atEnd then fail .repetitionCountUnclosed (d.since start)
  else
    let (first, d) := d.decimal
    let close (d : Cursor) (min : Nat) (max : Option Nat) :
        Except Fault (Nat × Option Nat × Cursor) :=
      match d.rest with
      | '\x7d' :: _ => .ok (min, max, d)
      | _ => fail .repetitionCountUnclosed (d.since start)
    match d.rest with
    | [] => fail .repetitionCountUnclosed (d.since start)
    | ',' :: _ =>
      let d := d.next
      match d.rest with
      | [] => fail .repetitionCountUnclosed (d.since start)
      | '\x7d' :: _ => do
        let min ← first
        close d min none
      | _ => do
        let min ← first
        let (last, e) := d.decimal
        let max ← last
        close e min (some max)
    | _ => do
      let n ← first
      close d n (some n)

/-- Reads a repetition of the last tree, from its sign on. -/
def repetition (items : List Tree) (c : Cursor) : Except Fault (List Tree × Cursor) := do
  let (t, before) ← operand c items
  let again (min : Nat) (max : Option Nat) : Except Fault (List Tree × Cursor) :=
    let d := afterPreference c.bump
    .ok (.repetition (d.since t.span.start) min max t :: before, d)
  match c.rest with
  | '?' :: _ => again 0 (some 1)
  | '*' :: _ => again 0 none
  | '+' :: _ => again 1 none
  | _ =>
    let (min, max, d) ← counts c
    let e := afterPreference d.next
    if max.any (· < min) then fail .repetitionRangeInvalid (e.since c.index)
    else return (.repetition (e.since t.span.start) min max t :: before, e)

/-! ## Groups -/

/-- Whether a character may start the name of a group. -/
def isNameStart (ch : Char) : Bool := ch = '_' || Unicode.alphabetic.contains ch.toNat

/-- The code points that have a numeric category. -/
def numeric : Unicode.CodePointSet := Unicode.categories ["Nd", "Nl", "No"]

/-- Whether a character may continue the name of a group. -/
def isNameContinuing (ch : Char) : Bool :=
  ['_', '.', '[', ']'].contains ch || Unicode.alphabetic.contains ch.toNat ||
    numeric.contains ch.toNat

/-- What a parenthesis begins. -/
inductive Header where
  /-- Flags from here on. -/
  | flags (items : List FlagItem)
  /-- A group. -/
  | group (kind : GroupKind)

/-- Reads what a parenthesis begins, from the parenthesis on. -/
def header (c : Cursor) : Except Fault (Header × Cursor) := do
  let start := c.index
  let d := c.next
  let lookAround := [['?', '='], ['?', '!'], ['?', '<', '='], ['?', '<', '!']]
  match lookAround.findSome? fun mark => d.take? mark with
  | some e => fail .lookAround (e.since start)
  | none =>
    match (d.take? ['?', 'P', '<']).orElse fun _ => d.take? ['?', '<'] with
    | some e =>
      let e ← groupName isNameStart isNameContinuing e
      return (.group .capturing, e)
    | none =>
      match d.take? ['?'] with
      | none => return (.group .capturing, d)
      | some e =>
        if e.atEnd then fail .unclosedGroup ⟨start, start + 1⟩
        else
          let (items, f) ← Cursor.flags (e.rest.length + 1) [] e
          match f.rest with
          | ')' :: _ =>
            if items.isEmpty then fail .repetitionMissingOperand d.point
            else return (.flags items, f.bump)
          | _ => return (.group (.plain items), f.bump)

/-! ## Patterns -/

/-- Reads a character, a dot, an escape, or a sign that stands for a condition. -/
def atom (c : Cursor) : Except Fault (Tree × Cursor) := do
  match c.rest with
  | '\\' :: _ =>
    let (a, d) ← escape c
    match a with
    | .literal l => return (.literal l, d)
    | .dot s => return (.dot s, d)
    | .assertion s kind => return (.assertion s kind, d)
    | .short s kind negated => return (.short s kind negated, d)
    | .unicode s query negated => return (.unicode s query negated, d)
  | '.' :: _ => return (.dot c.char, c.bump)
  | '^' :: _ => return (.assertion c.char .lineStart, c.bump)
  | '$' :: _ => return (.assertion c.char .lineEnd, c.bump)
  | ch :: _ => return (.literal ⟨c.char, ch, false⟩, c.bump)
  | [] => return (.empty c.point, c)

/-- Trees read one after the other, last one first, as one tree. -/
def sequenceOf (span : Span) : List Tree → Tree
  | [] => .empty span
  | [t] => t
  | items => .concatenation span items.reverse

/-- The branches before the last one, last one first, and the last one, as one tree. -/
def branchesOf (span : Span) (before : List Tree) (last : Tree) : Tree :=
  match before with
  | [] => last
  | before => .alternation span (last :: before).reverse

/-- What a pattern or a group that begins at `start` holds, when the cursor is at its end: the
branches before the last one, and the parts of that, which begins at `begun`, last one
first. -/
def bodyOf (start : Nat) (before : List Tree) (begun : Nat) (items : List Tree)
    (c : Cursor) : Tree :=
  branchesOf (c.since start) before (sequenceOf (c.since begun) items)

/-- Whether blanks are ignored in a group, by its own flags or as around it. -/
def extendedIn (kind : GroupKind) (around : Bool) : Bool :=
  match kind with
  | .capturing => around
  | .plain items => (flagState? .ignoreBlanks true items).getD around

/-- Reads what a pattern or a group that begins at `start` holds, up to its end or its closing
parenthesis.  The branches before the present one and the parts of the present one, which
begins at `begun`, are given last one first.  The fuel bounds the steps. -/
def body (start : Nat) : Nat → List Tree → Nat → List Tree → Cursor →
    Except Fault (Tree × Cursor)
  | 0, _, _, _, c => fail .unclosedGroup c.point
  | fuel + 1, before, begun, items, c => do
    let c := c.skip
    match c.rest with
    | [] => return (bodyOf start before begun items c, c)
    | ')' :: _ => return (bodyOf start before begun items c, c)
    | '(' :: _ =>
      let (head, d) ← header c
      match head with
      | .flags flagItems =>
        let extended := (flagState? .ignoreBlanks true flagItems).getD d.extended
        body start fuel before begun (.flags (d.since c.index) flagItems :: items)
          { d with extended }
      | .group kind =>
        let inside := { d with extended := extendedIn kind d.extended }
        let (inner, e) ← body inside.index fuel [] inside.index [] inside
        if e.atEnd then fail .unclosedGroup c.char
        else
          let f := e.bump
          body start fuel before begun (.group (f.since c.index) kind inner :: items)
            { f with extended := d.extended }
    | '|' :: _ =>
      let d := c.bump
      body start fuel (sequenceOf (c.since begun) items :: before) d.index [] d
    | '[' :: _ =>
      let (t, d) ← bracketed c
      body start fuel before begun (t :: items) d
    | '?' :: _ | '*' :: _ | '+' :: _ | '\x7b' :: _ =>
      let (items, d) ← repetition items c
      body start fuel before begun items d
    | _ :: _ =>
      let (t, d) ← atom c
      body start fuel before begun (t :: items) d

/-- The tree of a pattern. -/
def Tree.ofPattern (pattern : String) : Except Fault Tree := do
  let cs := pattern.toList
  let (t, c) ← body 0 (cs.length + 1) [] 0 [] (Cursor.start cs)
  if c.atEnd then
    t.checkDepth 0
    return t
  else fail .unopenedGroup c.char

end MatchCriteria.Pattern
