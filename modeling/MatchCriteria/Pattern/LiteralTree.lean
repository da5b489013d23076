/-!
# Trees of literals

A choice of literals is built as a tree, in which literals that begin alike share their first
nodes.  Since an earlier literal is preferred to a later one, a node where a literal ends is
closed: what leads on from it later comes after that end, and is not shared with what led on
before.
-/

namespace MatchCriteria.Pattern

/-- A tree of literals: the ways on that come before each end of a literal, and those that
come after the last one. -/
inductive LiteralTree where
  | node (closed : List (List (UInt8 × LiteralTree))) (opened : List (UInt8 × LiteralTree))

namespace LiteralTree

/-- The tree of no literal. -/
def empty : LiteralTree := .node [] []

/-- Whether nothing leads on from the root. -/
def isLeaf : LiteralTree → Bool
  | node closed opened => opened.isEmpty && closed.all List.isEmpty

/-- The tree with one more literal, less preferred than the others. -/
def insert : List UInt8 → LiteralTree → LiteralTree
  | [], .node closed opened =>
    if (node closed opened).isLeaf && !closed.isEmpty then .node closed opened
    else .node (closed ++ [opened]) []
  | b :: bs, .node closed opened =>
    match opened.find? fun way => way.1 = b with
    | some (_, child) =>
      let grown := child.insert bs
      .node closed (opened.map fun way => if way.1 = b then (b, grown) else way)
    | none => .node closed (opened ++ [(b, empty.insert bs)])

/-- The tree of some literals, in the order of preference. -/
def ofLiterals (literals : List (List UInt8)) : LiteralTree :=
  literals.foldl (fun t bs => t.insert bs) empty

mutual

/-- How many ways lead on by one byte from each state of an automaton for the tree, and how
many without a byte.  A leaf has no state of its own. -/
def ways : LiteralTree → List (Nat × Nat)
  | node closed opened =>
    if (node closed opened).isLeaf then []
    else
      let steps := waysOfAll closed ++ waysOfSome opened
      let widths := (closed ++ [opened]).filterMap fun part =>
        if part.isEmpty then none else some (part.length, 0)
      steps ++ widths ++ [(0, widths.length + closed.length)]

/-- The ways of the children in some ways on. -/
def waysOfSome : List (UInt8 × LiteralTree) → List (Nat × Nat)
  | [] => []
  | (_, t) :: rest => t.ways ++ waysOfSome rest

/-- The ways of the children in some lists of ways on. -/
def waysOfAll : List (List (UInt8 × LiteralTree)) → List (Nat × Nat)
  | [] => []
  | part :: rest => waysOfSome part ++ waysOfAll rest

end

end LiteralTree

end MatchCriteria.Pattern
