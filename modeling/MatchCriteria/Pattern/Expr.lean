import MatchCriteria.Text.Utf8
import MatchCriteria.Unicode.Property

/-!
# Expressions

What a pattern says, apart from how it is written: an expression takes a match from a
position in a sequence of bytes to the positions where the match may end.  `ends` gives
these for all the positions at which a match may begin, in ascending order and without
repetition, so that every expression is a map on sets of positions: a sequence is the
composition of its parts, a choice the union, and a repetition the iteration of its operand.
-/

namespace MatchCriteria.Pattern

open Unicode (CodePointSet)

/-- A condition on a position in a sequence of bytes. -/
inductive Look where
  | start
  | stop
  | lineStart
  | lineStop
  | returnLineStart
  | returnLineStop
  | wordBoundary (unicode : Bool)
  | notWordBoundary (unicode : Bool)
  | wordStart (unicode : Bool)
  | wordStop (unicode : Bool)
  | wordStartHalf (unicode : Bool)
  | wordStopHalf (unicode : Bool)
  deriving DecidableEq, Repr

/-- Whether a condition asks if a character beyond ASCII is part of a word. -/
def Look.asksForCharacters : Look → Bool
  | wordBoundary u => u
  | notWordBoundary u => u
  | wordStart u => u
  | wordStop u => u
  | wordStartHalf u => u
  | wordStopHalf u => u
  | _ => false

/-- What a pattern matches. -/
inductive Expr where
  /-- Nothing. -/
  | empty
  /-- These bytes. -/
  | literal (bytes : List UInt8)
  /-- A character of the set. -/
  | character (set : CodePointSet)
  /-- A byte of the set. -/
  | byte (set : CodePointSet)
  /-- Nothing, at a position that satisfies the condition. -/
  | look (condition : Look)
  /-- The operand, as often as the counts allow. -/
  | repeated (min : Nat) (max : Option Nat) (operand : Expr)
  /-- The body of a group, which may be remembered. -/
  | group (remembered : Bool) (body : Expr)
  /-- One after the other. -/
  | seq (first second : Expr)
  /-- One or the other. -/
  | alt (left right : Expr)
  deriving DecidableEq, Repr

/-! ## Conditions on positions -/

/-- The byte before a position. -/
def byteBefore? (bytes : Array UInt8) (p : Nat) : Option UInt8 :=
  if p = 0 then none else bytes[p - 1]?

/-- Whether a byte is a letter, a digit or the low line. -/
def isWordByte (b : UInt8) : Bool :=
  (0x30 ≤ b && b ≤ 0x39) || (0x41 ≤ b && b ≤ 0x5A) || b = 0x5F || (0x61 ≤ b && b ≤ 0x7A)

/-- Whether a byte continues a character. -/
def isContinuation (b : UInt8) : Bool := 0x80 ≤ b && b ≤ 0xBF

/-- The code point that starts at the last byte before a position that continues no
character, or at the fourth byte before it. -/
def codePointBefore? (bytes : Array UInt8) (p : Nat) : Option Nat :=
  let back := [1, 2, 3].find? fun n => n < p && !(bytes[p - n]?.any isContinuation)
  let start := match back with
    | some n => p - n
    | none => p - Nat.min p 4
  match Text.decodeAt? bytes start with
  | some (c, n) => if start + n ≤ p then some c else none
  | none => none

/-- Whether a word character stands before a position. -/
def wordBefore (unicode : Bool) (bytes : Array UInt8) (p : Nat) : Bool :=
  if unicode then (codePointBefore? bytes p).any Unicode.word.contains
  else (byteBefore? bytes p).any isWordByte

/-- Whether a word character stands after a position. -/
def wordAfter (unicode : Bool) (bytes : Array UInt8) (p : Nat) : Bool :=
  if unicode then (Text.decodeAt? bytes p).any fun c => Unicode.word.contains c.1
  else bytes[p]?.any isWordByte

/-- Whether what stands before a position, if anything, is known to be a character. -/
def knownBefore (unicode : Bool) (bytes : Array UInt8) (p : Nat) : Bool :=
  !unicode || p = 0 || (codePointBefore? bytes p).isSome

/-- Whether what stands after a position, if anything, is known to be a character. -/
def knownAfter (unicode : Bool) (bytes : Array UInt8) (p : Nat) : Bool :=
  !unicode || bytes.size ≤ p || (Text.decodeAt? bytes p).isSome

/-- Whether a position satisfies a condition.  A condition that asks for the absence of a
word character does not hold beside bytes that are no character. -/
def Look.holds (bytes : Array UInt8) (p : Nat) : Look → Bool
  | start => p = 0
  | stop => p = bytes.size
  | lineStart => p = 0 || byteBefore? bytes p = some 0x0A
  | lineStop => p = bytes.size || bytes[p]? = some 0x0A
  | returnLineStart =>
    p = 0 || byteBefore? bytes p = some 0x0A ||
      (byteBefore? bytes p = some 0x0D && bytes[p]? ≠ some 0x0A)
  | returnLineStop =>
    p = bytes.size || bytes[p]? = some 0x0D ||
      (bytes[p]? = some 0x0A && byteBefore? bytes p ≠ some 0x0D)
  | wordBoundary u => wordBefore u bytes p != wordAfter u bytes p
  | notWordBoundary u =>
    knownBefore u bytes p && knownAfter u bytes p && wordBefore u bytes p == wordAfter u bytes p
  | wordStart u => !wordBefore u bytes p && wordAfter u bytes p
  | wordStop u => wordBefore u bytes p && !wordAfter u bytes p
  | wordStartHalf u => knownBefore u bytes p && !wordBefore u bytes p
  | wordStopHalf u => knownAfter u bytes p && !wordAfter u bytes p

/-! ## Sets of positions -/

/-- The elements of either of two ascending lists, in ascending order. -/
def merge : List Nat → List Nat → List Nat
  | [], qs => qs
  | ps, [] => ps
  | p :: ps, q :: qs =>
    if p < q then p :: merge ps (q :: qs)
    else if q < p then q :: merge (p :: ps) qs
    else p :: merge ps qs

/-- The elements of an ascending list that another one does not have. -/
def without : List Nat → List Nat → List Nat
  | [], _ => []
  | ps, [] => ps
  | p :: ps, q :: qs =>
    if p < q then p :: without ps (q :: qs)
    else if q < p then without (p :: ps) qs
    else without ps qs

/-- The positions that a number of steps lead to. -/
def iterate (step : List Nat → List Nat) : Nat → List Nat → List Nat
  | 0, ps => ps
  | n + 1, ps =>
    let qs := step ps
    if qs = ps then ps else if qs.isEmpty then [] else iterate step n qs

/-- The positions that at most a number of steps lead to, where those in `seen` are known and
those in `frontier`, which are among them, have been reached last. -/
def reach (step : List Nat → List Nat) : Nat → List Nat → List Nat → List Nat
  | 0, seen, _ => seen
  | n + 1, seen, frontier =>
    let fresh := without (step frontier) seen
    if fresh.isEmpty then seen else reach step n (merge seen fresh) fresh

/-- Whether these bytes stand at a position. -/
def literalAt (bytes : Array UInt8) (p : Nat) : List UInt8 → Bool
  | [] => true
  | b :: bs => bytes[p]? = some b && literalAt bytes (p + 1) bs

namespace Expr

/-- The positions where matches end that begin at some of the positions. -/
def ends (bytes : Array UInt8) : Expr → List Nat → List Nat
  | empty, ps => ps
  | literal bs, ps =>
    ps.filterMap fun p => if literalAt bytes p bs then some (p + bs.length) else none
  | character set, ps =>
    ps.filterMap fun p =>
      match Text.decodeAt? bytes p with
      | some (c, n) => if set.contains c then some (p + n) else none
      | none => none
  | byte set, ps =>
    ps.filterMap fun p => if bytes[p]?.any fun b => set.contains b.toNat then some (p + 1) else none
  | look condition, ps => ps.filter fun p => condition.holds bytes p
  | repeated min max operand, ps =>
    let first := iterate (operand.ends bytes) min ps
    let more := match max with
      | some max => max - min
      | none => bytes.size + 1
    reach (operand.ends bytes) more first first
  | group _ body, ps => body.ends bytes ps
  | seq a b, ps =>
    match a.ends bytes ps with
    | [] => []
    | qs => b.ends bytes qs
  | alt a b, ps => merge (a.ends bytes ps) (b.ends bytes ps)

/-- Whether the expression matches somewhere in the bytes. -/
def search (e : Expr) (bytes : Array UInt8) : Bool :=
  !(e.ends bytes (List.range (bytes.size + 1))).isEmpty

/-- Expressions one after the other. -/
def sequence : List Expr → Expr
  | [] => empty
  | [e] => e
  | e :: es => seq e (sequence es)

/-- A choice of expressions. -/
def choice : List Expr → Expr
  | [] => empty
  | [e] => e
  | e :: es => alt e (choice es)

end Expr

end MatchCriteria.Pattern
