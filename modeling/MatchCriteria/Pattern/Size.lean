import MatchCriteria.Pattern.NormalForm
import MatchCriteria.Pattern.Plan

/-!
# The size of a pattern

A pattern is refused when the automaton that would run it is too large, in either direction.
An operand that repeats is built anew for every time it may count.
-/

namespace MatchCriteria.Pattern

open Unicode (CodePointSet)

/-- Which way an automaton reads. -/
inductive Direction where
  | forward
  | backward
  deriving DecidableEq, Repr

/-- Two plans for what is read one after the other. -/
def Direction.inOrder (d : Direction) (first second : Plan) : Plan :=
  match d with
  | forward => .both first second
  | backward => .both second first

namespace Plan

/-- The plan for one of some ranges of bytes. -/
def ofRanges (ranges : Nat) : Plan := .both .plain (.state (rangeSize * ranges))

/-- The plan for one character of a set. -/
def ofCharacters (d : Direction) (s : CodePointSet) : Plan :=
  if Expr.isAscii s then ofRanges s.ranges.size
  else
    match d with
    | .forward => .forward (.ofSequences (setSequences s))
    | .backward => .backward (setSequences s)

/-- The plan for a choice of literals. -/
def ofLiterals (d : Direction) (literals : List (List UInt8)) : Plan :=
  let read := match d with
    | .forward => literals
    | .backward => literals.map List.reverse
  .both .plain (.all ((LiteralTree.ofLiterals read).ways.map fun (ranges, branches) =>
    if ranges = 1 then .plain else .state (rangeSize * ranges + branchSize * branches)))

/-- The plan for a number of repetitions of an operand with a plan; `nullable` tells that the
operand may match nothing, or never matches. -/
def ofRepeated (operand : Plan) (nullable : Bool) (min : Nat) (max : Option Nat) : Plan :=
  match min, max with
  | 0, some 1 => .all [.branch 2, operand, .plain]
  | 0, none =>
    if nullable then .all [operand, .branch 2, .branch 2, .plain]
    else .both (.branch 2) operand
  | min, none => .both (.times min operand) (.branch 2)
  | min, some max =>
    let required := if min = 0 then .plain else .times min operand
    if min = max then required
    else .all [required, .plain, .times (max - min) (.both (.branch 2) operand)]

/-- The plan for a choice of branches with plans.  The state that branches comes after the
first two branches. -/
def ofBranches : List Plan → Plan
  | [] => .plain
  | [p] => p
  | p :: q :: rest =>
    .all [p, q, .branch (rest.length + 2), .plain, .all rest]

end Plan

namespace Expr

/-- The bytes of a literal. -/
def literal? : Expr → Option (List UInt8)
  | literal bs => some bs
  | _ => none

/-- The plan for an expression, from those for its branches.  A choice of literals is a
tree. -/
def joinPlans (d : Direction) (e : Expr) (plans : List Plan) : Plan :=
  match e.branches with
  | [] => .ofBranches plans
  | [_] => .ofBranches plans
  | es =>
    match es.mapM literal? with
    | some literals => .ofLiterals d literals
    | none => .ofBranches plans

/-- The plans for the branches of an expression in normal form. -/
def plans (d : Direction) : Expr → List Plan
  | empty => [.plain]
  | literal bs => [.times bs.length .plain]
  | character s => [.ofCharacters d s]
  | byte s => [.ofRanges s.ranges.size]
  | look _ => [.plain]
  | repeated min max e =>
    [.ofRepeated (e.joinPlans d (e.plans d)) (e.minLength.all (· = 0)) min max]
  | group _ e =>
    let body := e.joinPlans d (e.plans d)
    match d with
    | .forward => [.all [.plain, body, .plain]]
    | .backward => [body]
  | seq a b => [d.inOrder (a.joinPlans d (a.plans d)) (b.joinPlans d (b.plans d))]
  | alt a b => a.plans d ++ b.plans d

/-- The plan for an expression in normal form. -/
def plan (d : Direction) (e : Expr) : Plan := e.joinPlans d (e.plans d)

/-- Whether a match can only be where a reader starts: at the start of the bytes, or, for one
that reads backward, at their end. -/
def isAnchored (d : Direction) : Expr → Bool
  | look l =>
    match d with
    | .forward => l = .start
    | .backward => l = .stop
  | repeated min _ e => 0 < min && e.isAnchored d
  | group _ e => e.isAnchored d
  | seq a b =>
    match d with
    | .forward => a.isAnchored d || (a.onlyEmpty && b.isAnchored d)
    | .backward => b.isAnchored d || (b.onlyEmpty && a.isAnchored d)
  | alt a b => a.isAnchored d && b.isAnchored d
  | _ => false

/-- The plan for a whole pattern in normal form: bytes may be skipped before the match, and a
reader forward remembers where the match begins and ends. -/
def programPlan (d : Direction) (e : Expr) : Plan :=
  let skipping := if e.isAnchored d then .plain else .both (.branch 2) (.ofRanges 1)
  match d with
  | .forward => .all [skipping, .plain, e.plan d, .plain, .plain]
  | .backward => .all [skipping, e.plan d, .plain]

/-- Whether the automata for the expression are within the limit. -/
def fits (e : Expr) : Bool :=
  let e := e.normal
  (e.programPlan .forward).fits && (e.programPlan .backward).fits

end Expr

end MatchCriteria.Pattern
