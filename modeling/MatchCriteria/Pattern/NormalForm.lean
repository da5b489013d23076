import MatchCriteria.Pattern.Expr
import MatchCriteria.Pattern.Utf8Range

/-!
# Normal forms of expressions

Expressions that are written differently may be built alike.  In normal form there are no
groups but those that are remembered; literals that follow one another are one; a set of one
element is a literal; what is repeated exactly once, or not at all, is no repetition; and
a choice of characters is a set.  Branches that begin alike share their beginning.
-/

namespace MatchCriteria.Pattern

open Unicode (CodePointSet)

namespace Expr

/-- Whether no match is longer than nothing. -/
def onlyEmpty : Expr → Bool
  | empty => true
  | literal bs => bs.isEmpty
  | character _ => false
  | byte _ => false
  | look _ => true
  | repeated _ max e => max = some 0 || e.onlyEmpty
  | group _ e => e.onlyEmpty
  | seq a b => a.onlyEmpty && b.onlyEmpty
  | alt a b => a.onlyEmpty && b.onlyEmpty

/-- The length of the shortest match, where every branch of a choice may match. -/
def minLength : Expr → Option Nat
  | empty => some 0
  | literal bs => some bs.length
  | character s => s.ranges[0]?.map fun r => (codePointBytes r.1).length
  | byte s => if s.isEmpty then none else some 1
  | look _ => some 0
  | repeated min _ e => e.minLength.map (min * ·)
  | group _ e => e.minLength
  | seq a b => do return (← a.minLength) + (← b.minLength)
  | alt a b => do return Nat.min (← a.minLength) (← b.minLength)

/-- Whether a part of the expression is remembered. -/
def remembers : Expr → Bool
  | repeated _ _ e => e.remembers
  | group remembered e => remembered || e.remembers
  | seq a b => a.remembers || b.remembers
  | alt a b => a.remembers || b.remembers
  | _ => false

/-! ## Sequences -/

/-- The parts of a sequence. -/
def parts : Expr → List Expr
  | empty => []
  | seq a b => a.parts ++ b.parts
  | e => [e]

/-- The parts of a sequence, with the literals that follow one another made one. -/
def joinLiterals : List Expr → List Expr
  | [] => []
  | e :: rest =>
    match e, joinLiterals rest with
    | literal a, literal b :: more => literal (a ++ b) :: more
    | e, joined => e :: joined

/-- The sequence of expressions in normal form. -/
def normalSequence (es : List Expr) : Expr := sequence (joinLiterals (es.flatMap parts))

/-! ## Characters and bytes -/

/-- The literal of some bytes. -/
def normalLiteral (bs : List UInt8) : Expr := if bs.isEmpty then empty else literal bs

/-- A character of a set.  No character is in the empty set, and no byte is. -/
def normalCharacter (s : CodePointSet) : Expr :=
  if s.isEmpty then byte .empty
  else
    match s.single? with
    | some c => literal ((codePointBytes c).map Nat.toUInt8)
    | none => character s

/-- A byte of a set. -/
def normalByte (s : CodePointSet) : Expr :=
  match s.single? with
  | some b => literal [b.toUInt8]
  | none => byte s

/-- Whether a set has elements of ASCII only. -/
def isAscii (s : CodePointSet) : Bool := s.ranges.all fun r => r.2 ≤ 0x7F

/-- The character that a literal is. -/
def singleCharacter? : Expr → Option CodePointSet
  | literal bs =>
    match Text.decodeAt? bs.toArray 0 with
    | some (c, n) => if n = bs.length then some (.singleton c) else none
    | none => none
  | _ => none

/-- The byte that a literal is. -/
def singleByte? : Expr → Option CodePointSet
  | literal [b] => some (.singleton b.toNat)
  | _ => none

/-- The characters of a set that can be one of characters. -/
def characterSet? : Expr → Option CodePointSet
  | character s => some s
  | byte s => if isAscii s then some s else none
  | _ => none

/-- The bytes of a set that can be one of bytes. -/
def byteSet? : Expr → Option CodePointSet
  | character s => if isAscii s then some s else none
  | byte s => some s
  | _ => none

/-! ## Choices -/

/-- The branches of a choice. -/
def branches : Expr → List Expr
  | alt a b => a.branches ++ b.branches
  | e => [e]

/-- The set that a choice between some branches is, if all are literals of one character, or
of one byte, or all are sets. -/
def asSet? (es : List Expr) : Option Expr :=
  let union? (set? : Expr → Option CodePointSet) : Option CodePointSet :=
    (es.mapM set?).map .unions
  ((union? singleCharacter?).map normalCharacter).orElse fun _ =>
    ((union? singleByte?).map normalByte).orElse fun _ =>
      ((union? characterSet?).map normalCharacter).orElse fun _ =>
        (union? byteSet?).map normalByte

/-- The longest list with which both lists begin.  What is remembered is never shared. -/
def sharedBeginning : List Expr → List Expr → List Expr
  | a :: as, b :: bs => if a = b && !a.remembers then a :: sharedBeginning as bs else []
  | _, _ => []

/-- The parts with which all of some branches begin, if each of them is a sequence. -/
def beginning (es : List Expr) : List Expr :=
  let lists := es.map parts
  match lists with
  | [] => []
  | l :: rest => if lists.all fun l => 2 ≤ l.length then rest.foldl sharedBeginning l else []

/-- The choice between expressions in normal form, which begin differently. -/
def plainChoice (es : List Expr) : Expr :=
  match es.flatMap branches with
  | [e] => e
  | es => (asSet? es).getD (choice es)

/-- The choice between expressions in normal form. -/
def normalChoice (es : List Expr) : Expr :=
  let es := es.flatMap branches
  let first := beginning es
  if first.isEmpty || es.length < 2 then plainChoice es
  else
    let rests := es.map fun e => normalSequence (e.parts.drop first.length)
    normalSequence (first ++ [plainChoice rests])

/-! ## Repetitions -/

/-- The repetition of an expression in normal form.  Nothing that is repeated is repeated more
than once. -/
def normalRepeated (min : Nat) (max : Option Nat) (e : Expr) : Expr :=
  let counts :=
    if e.onlyEmpty then (Nat.min min 1, some (Nat.min (max.getD 1) 1)) else (min, max)
  match counts with
  | (0, some 0) => empty
  | (1, some 1) => e
  | (min, max) => repeated min max e

/-! ## Expressions -/

/-- The branches of an expression, each in normal form. -/
def normalBranches : Expr → List Expr
  | empty => [empty]
  | literal bs => [normalLiteral bs]
  | character s => [normalCharacter s]
  | byte s => [normalByte s]
  | look l => [look l]
  | repeated min max e => [normalRepeated min max (normalChoice e.normalBranches)]
  | group true e => [group true (normalChoice e.normalBranches)]
  | group false e => [normalChoice e.normalBranches]
  | seq a b => [normalSequence [normalChoice a.normalBranches, normalChoice b.normalBranches]]
  | alt a b => a.normalBranches ++ b.normalBranches

/-- The normal form of an expression. -/
def normal (e : Expr) : Expr := normalChoice e.normalBranches

/-- Whether the expression asks somewhere if a character beyond ASCII is part of a word. -/
def asksForCharacters : Expr → Bool
  | look l => l.asksForCharacters
  | repeated _ _ e => e.asksForCharacters
  | group _ e => e.asksForCharacters
  | seq a b => a.asksForCharacters || b.asksForCharacters
  | alt a b => a.asksForCharacters || b.asksForCharacters
  | _ => false

end Expr

end MatchCriteria.Pattern
