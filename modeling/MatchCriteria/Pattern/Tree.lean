import MatchCriteria.Pattern.Diagnostic

/-!
# Syntax trees of patterns

A pattern as it is written: every node keeps the place where it stands, since a fault found
later is shown there.  What makes no difference to whether a pattern matches is left out:
the names of groups and whether a repetition prefers more or less.
-/

namespace MatchCriteria.Pattern

/-- A character of a pattern.  It is a byte when it was written as `\x` and two digits, and
only where Unicode is off. -/
structure Literal where
  /-- Where it stands. -/
  span : Span
  /-- The character. -/
  char : Char
  /-- Whether it was written as a byte. -/
  isByte : Bool
  deriving DecidableEq, Repr

/-- A condition on a position. -/
inductive Assertion where
  | lineStart
  | lineEnd
  | textStart
  | textEnd
  | wordBoundary
  | notWordBoundary
  | wordStart
  | wordEnd
  | wordStartHalf
  | wordEndHalf
  deriving DecidableEq, Repr

/-- The classes with an escape of one letter. -/
inductive ShortClass where
  | digit
  | space
  | word
  deriving DecidableEq, Repr

/-- The classes with a name between colons. -/
inductive NamedClass where
  | alnum
  | alpha
  | ascii
  | blank
  | cntrl
  | digit
  | graph
  | lower
  | print
  | punct
  | space
  | upper
  | word
  | xdigit
  deriving DecidableEq, Repr

/-- What a class of code points is asked for by. -/
inductive Query where
  /-- By the name of a property, category or script. -/
  | named (name : String)
  /-- By the name of a property and a value, which the code points have, or which they do not
  have if they are to differ from it. -/
  | valued (name value : String) (differs : Bool)
  deriving DecidableEq, Repr

/-- Whether a query asks for the code points without the property that it names. -/
def Query.excludes : Query → Bool
  | named _ => false
  | valued _ _ differs => differs

/-- The operations on two sets within brackets. -/
inductive SetOperation where
  | intersection
  | difference
  | symmetricDifference
  deriving DecidableEq, Repr

/-- What stands between brackets. -/
inductive ClassSet where
  | empty (span : Span)
  | literal (l : Literal)
  | range (span : Span) (first last : Literal)
  | named (span : Span) (kind : NamedClass) (negated : Bool)
  | short (span : Span) (kind : ShortClass) (negated : Bool)
  | unicode (span : Span) (query : Query) (negated : Bool)
  | bracketed (span : Span) (negated : Bool) (set : ClassSet)
  | union (span : Span) (members : List ClassSet)
  | binary (span : Span) (op : SetOperation) (left right : ClassSet)

/-- Where a set stands. -/
def ClassSet.span : ClassSet → Span
  | empty s => s
  | literal l => l.span
  | range s _ _ => s
  | named s _ _ => s
  | short s _ _ => s
  | unicode s _ _ => s
  | bracketed s _ _ => s
  | union s _ => s
  | binary s _ _ _ => s

/-- The switches of a pattern. -/
inductive Flag where
  | caseInsensitive
  | multiLine
  | dotMatchesNewLine
  | swapGreed
  | unicode
  | crlf
  | ignoreBlanks
  deriving DecidableEq, Repr

/-- A flag, or the sign after which flags are switched off. -/
inductive FlagItem where
  | negation
  | flag (f : Flag)
  deriving DecidableEq, Repr

/-- Whether a list of flags switches a flag on or off, if it names it. -/
def flagState? (flag : Flag) : Bool → List FlagItem → Option Bool
  | _, [] => none
  | _, .negation :: rest => flagState? flag false rest
  | enabled, .flag f :: rest => if f = flag then some enabled else flagState? flag enabled rest

/-- The kinds of groups. -/
inductive GroupKind where
  /-- A group that is remembered, by number or name. -/
  | capturing
  /-- A group that is not remembered, with flags of its own. -/
  | plain (flags : List FlagItem)
  deriving DecidableEq, Repr

/-- A pattern. -/
inductive Tree where
  | empty (span : Span)
  | flags (span : Span) (items : List FlagItem)
  | literal (l : Literal)
  | dot (span : Span)
  | assertion (span : Span) (kind : Assertion)
  | short (span : Span) (kind : ShortClass) (negated : Bool)
  | unicode (span : Span) (query : Query) (negated : Bool)
  | bracketed (span : Span) (negated : Bool) (set : ClassSet)
  | repetition (span : Span) (min : Nat) (max : Option Nat) (operand : Tree)
  | group (span : Span) (kind : GroupKind) (body : Tree)
  | alternation (span : Span) (branches : List Tree)
  | concatenation (span : Span) (parts : List Tree)

/-- Where a pattern stands. -/
def Tree.span : Tree → Span
  | empty s => s
  | flags s _ => s
  | literal l => l.span
  | dot s => s
  | assertion s _ => s
  | short s _ _ => s
  | unicode s _ _ => s
  | bracketed s _ _ => s
  | repetition s _ _ _ => s
  | group s _ _ => s
  | alternation s _ => s
  | concatenation s _ => s

/-- Enters a node at a depth, if the limit allows. -/
def enter (depth : Nat) (span : Span) (inside : Nat → Except Fault Unit) : Except Fault Unit :=
  if depth < nestLimit then inside (depth + 1) else .error { cause := .nestedTooDeeply, span }

mutual

/-- Refuses a set that nests too deeply, at a depth. -/
def ClassSet.checkDepth (depth : Nat) : ClassSet → Except Fault Unit
  | .bracketed s _ set => enter depth s fun d => set.checkDepth d
  | .union s members => enter depth s fun d => ClassSet.checkDepths d members
  | .binary s _ left right => enter depth s fun d => do
    left.checkDepth d
    right.checkDepth d
  | _ => .ok ()

/-- Refuses sets of which one nests too deeply, at a depth. -/
def ClassSet.checkDepths (depth : Nat) : List ClassSet → Except Fault Unit
  | [] => .ok ()
  | s :: rest => do
    s.checkDepth depth
    ClassSet.checkDepths depth rest

end

mutual

/-- Refuses a pattern that nests too deeply, at a depth. -/
def Tree.checkDepth (depth : Nat) : Tree → Except Fault Unit
  | .bracketed s _ set => enter depth s fun d => set.checkDepth d
  | .repetition s _ _ operand => enter depth s fun d => operand.checkDepth d
  | .group s _ body => enter depth s fun d => body.checkDepth d
  | .alternation s branches => enter depth s fun d => Tree.checkDepths d branches
  | .concatenation s parts => enter depth s fun d => Tree.checkDepths d parts
  | _ => .ok ()

/-- Refuses patterns of which one nests too deeply, at a depth. -/
def Tree.checkDepths (depth : Nat) : List Tree → Except Fault Unit
  | [] => .ok ()
  | t :: rest => do
    t.checkDepth depth
    Tree.checkDepths depth rest

end

end MatchCriteria.Pattern
