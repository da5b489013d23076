import MatchCriteria.Pattern.Expr
import MatchCriteria.Pattern.Tree
import MatchCriteria.Unicode.Case

/-!
# What a tree means

The expression of a tree depends on the flags that are set where it stands: whether case
counts, what the dot and the signs for lines mean, and whether classes hold characters or
bytes.  Flags set inside a group end with it.  A pattern may be meant for texts only; then
every byte that it names has to be a character by itself.
-/

namespace MatchCriteria.Pattern

open Unicode (CodePointSet)

/-- The flags that are set at a place of a pattern. -/
structure Flags where
  /-- Whether case does not count. -/
  caseInsensitive : Bool
  /-- Whether the signs for the ends of the text mean those of lines. -/
  multiLine : Bool
  /-- Whether the dot matches the end of a line. -/
  dotMatchesNewLine : Bool
  /-- Whether classes hold characters, and not bytes. -/
  unicode : Bool
  /-- Whether a carriage return ends a line too. -/
  crlf : Bool
  /-- Whether the pattern is meant for texts only. -/
  textOnly : Bool
  deriving DecidableEq, Repr

namespace Flags

/-- The flags that are set at the start of a pattern. -/
def initial (textOnly : Bool) : Flags := ⟨false, false, false, true, false, textOnly⟩

/-- The flags after a list of flags. -/
def update (f : Flags) (items : List FlagItem) : Flags where
  caseInsensitive := (flagState? .caseInsensitive true items).getD f.caseInsensitive
  multiLine := (flagState? .multiLine true items).getD f.multiLine
  dotMatchesNewLine := (flagState? .dotMatchesNewLine true items).getD f.dotMatchesNewLine
  unicode := (flagState? .unicode true items).getD f.unicode
  crlf := (flagState? .crlf true items).getD f.crlf
  textOnly := f.textOnly

/-- The set and what differs from its elements only by case, if case does not count. -/
def fold (f : Flags) (s : CodePointSet) : CodePointSet :=
  if f.caseInsensitive then
    if f.unicode then Unicode.closeUnderFolding s else Unicode.closeUnderAsciiFolding s
  else s

/-- The set or what is not in it, among characters or bytes. -/
def negate (f : Flags) (negated : Bool) (s : CodePointSet) : CodePointSet :=
  if negated then if f.unicode then s.complement else s.complementTo 0xFF else s

/-- The set that stands at a place, unless it has bytes that it must not have. -/
def checked (f : Flags) (span : Span) (s : CodePointSet) : Except Fault CodePointSet :=
  if f.textOnly && !f.unicode && !(s.diff (.range 0 0x7F)).isEmpty then
    .error { cause := .invalidUtf8, span }
  else .ok s

/-- An expression for one element of a set of characters or bytes. -/
def one (f : Flags) (s : CodePointSet) : Expr := if f.unicode then .character s else .byte s

end Flags

/-- The elements of a named class. -/
def NamedClass.set : NamedClass → CodePointSet
  | alnum => .ofTable ["30-39 41-5A 61-7A"]
  | alpha => .ofTable ["41-5A 61-7A"]
  | ascii => .ofTable ["0-7F"]
  | blank => .ofTable ["9 20"]
  | cntrl => .ofTable ["0-1F 7F"]
  | digit => .ofTable ["30-39"]
  | graph => .ofTable ["21-7E"]
  | lower => .ofTable ["61-7A"]
  | print => .ofTable ["20-7E"]
  | punct => .ofTable ["21-2F 3A-40 5B-60 7B-7E"]
  | space => .ofTable ["9-D 20"]
  | upper => .ofTable ["41-5A"]
  | word => .ofTable ["30-39 41-5A 5F 61-7A"]
  | xdigit => .ofTable ["30-39 41-46 61-66"]

/-- The elements of a class that is written as a letter. -/
def ShortClass.set (unicode : Bool) : ShortClass → CodePointSet
  | digit => if unicode then Unicode.decimalDigits else NamedClass.set .digit
  | space => if unicode then Unicode.whiteSpace else NamedClass.set .space
  | word => if unicode then Unicode.word else NamedClass.set .word

/-- The fault of a query that denotes no set. -/
def queryFault (span : Span) : Unicode.LookupError → Fault
  | .unknownProperty => { cause := .propertyNotFound, span }
  | .unknownValue => { cause := .propertyValueNotFound, span }

/-- The elements of the class that a query asks for.  What the query names is closed under
case before it is excluded or negated. -/
def unicodeSet (f : Flags) (span : Span) (query : Query) (negated : Bool) :
    Except Fault CodePointSet :=
  if f.unicode then
    let found := match query with
      | .named name => Unicode.lookup name
      | .valued name value _ => Unicode.lookupValue name value
    match found with
    | .ok s => .ok (f.negate (negated != query.excludes) (f.fold s))
    | .error e => .error (queryFault span e)
  else .error { cause := .unicodeNotAllowed, span }

/-- The byte that a literal denotes by itself: only where Unicode is off, and only if no
character of ASCII. -/
def Literal.rawByte? (f : Flags) (l : Literal) : Option UInt8 :=
  if !f.unicode && l.isByte && 0x7F < l.char.toNat then some l.char.toNat.toUInt8 else none

/-- The element that a literal is of a class. -/
def Literal.element (f : Flags) (l : Literal) : Except Fault Nat :=
  match l.rawByte? f with
  | some b => do
    discard <| f.checked l.span (.singleton b.toNat)
    return b.toNat
  | none =>
    if f.unicode || l.char.toNat ≤ 0x7F then .ok l.char.toNat
    else .error { cause := .unicodeNotAllowed, span := l.span }

/-- The elements that an operation leaves of two sets. -/
def SetOperation.apply (op : SetOperation) (s t : CodePointSet) : CodePointSet :=
  match op with
  | .intersection => s.inter t
  | .difference => s.diff t
  | .symmetricDifference => s.symmDiff t

mutual

/-- The elements of a set between brackets. -/
def ClassSet.elements (f : Flags) : ClassSet → Except Fault CodePointSet
  | .empty _ => .ok .empty
  | .literal l => do return .singleton (← l.element f)
  | .range _ first last => do
    let a ← first.element f
    let b ← last.element f
    return .range a b
  | .named s kind negated => f.checked s (f.negate negated (f.fold kind.set))
  | .short s kind negated => f.checked s (f.negate negated (kind.set f.unicode))
  | .unicode s query negated => unicodeSet f s query negated
  | .bracketed s negated set => do f.checked s (f.negate negated (f.fold (← set.elements f)))
  | .union _ members => ClassSet.unionElements f members
  | .binary _ op left right => do
    let a ← left.elements f
    let b ← right.elements f
    return op.apply (f.fold a) (f.fold b)

/-- The elements of any of some sets between brackets. -/
def ClassSet.unionElements (f : Flags) : List ClassSet → Except Fault CodePointSet
  | [] => .ok .empty
  | s :: rest => do
    let a ← s.elements f
    let b ← ClassSet.unionElements f rest
    return a.union b

end

/-- The expression of a character.  Where case does not count, a character that has another
case is a set. -/
def Literal.expr (f : Flags) (l : Literal) : Except Fault Expr :=
  match l.rawByte? f with
  | some b => do
    discard <| f.checked l.span (.singleton b.toNat)
    return .literal [b]
  | none =>
    let alone := Expr.literal (Text.utf8 [l.char])
    if f.caseInsensitive then
      let s := f.fold (.singleton l.char.toNat)
      .ok (if s.size = 1 then alone else f.one s)
    else .ok alone

/-- The expression of the dot. -/
def dotExpr (f : Flags) (span : Span) : Except Fault Expr := do
  let excluded : CodePointSet :=
    if f.dotMatchesNewLine then .empty
    else if f.crlf then .ofTable ["A D"]
    else .singleton 0xA
  return f.one (← f.checked span (f.negate true excluded))

/-- The condition of an assertion. -/
def Assertion.look (f : Flags) : Assertion → Look
  | lineStart =>
    if f.multiLine then if f.crlf then .returnLineStart else .lineStart else .start
  | lineEnd => if f.multiLine then if f.crlf then .returnLineStop else .lineStop else .stop
  | textStart => .start
  | textEnd => .stop
  | wordBoundary => .wordBoundary f.unicode
  | notWordBoundary => .notWordBoundary f.unicode
  | wordStart => .wordStart f.unicode
  | wordEnd => .wordStop f.unicode
  | wordStartHalf => .wordStartHalf f.unicode
  | wordEndHalf => .wordStopHalf f.unicode

mutual

/-- The expression of a tree, and the flags that are set after it. -/
def Tree.elaborate (f : Flags) : Tree → Except Fault (Expr × Flags)
  | .empty _ => .ok (.empty, f)
  | .flags _ items => .ok (.empty, f.update items)
  | .literal l => do return (← l.expr f, f)
  | .dot s => do return (← dotExpr f s, f)
  | .assertion _ kind => .ok (.look (kind.look f), f)
  | .short s kind negated => do
    return (f.one (← f.checked s (f.negate negated (kind.set f.unicode))), f)
  | .unicode s query negated => do
    return (f.one (← unicodeSet f s query negated), f)
  | .bracketed s negated set => do
    return (f.one (← f.checked s (f.negate negated (f.fold (← set.elements f)))), f)
  | .repetition _ min max operand => do
    let (e, after) ← operand.elaborate f
    return (.repeated min max e, after)
  | .group _ .capturing body => do
    let (e, _) ← body.elaborate f
    return (.group true e, f)
  | .group _ (.plain items) body => do
    let (e, _) ← body.elaborate (f.update items)
    return (.group false e, f)
  | .alternation _ branches => do
    let (es, after) ← Tree.elaborateAll f branches
    return (.choice es, after)
  | .concatenation _ parts => do
    let (es, after) ← Tree.elaborateAll f parts
    return (.sequence es, after)

/-- The expressions of trees one after the other, and the flags that are set after them. -/
def Tree.elaborateAll (f : Flags) : List Tree → Except Fault (List Expr × Flags)
  | [] => .ok ([], f)
  | t :: rest => do
    let (e, f) ← t.elaborate f
    let (es, f) ← Tree.elaborateAll f rest
    return (e :: es, f)

end

/-- The expression of a whole pattern, which may be meant for texts only. -/
def Tree.expr (t : Tree) (textOnly : Bool) : Except Fault Expr := do
  let (e, _) ← t.elaborate (.initial textOnly)
  return e

end MatchCriteria.Pattern
