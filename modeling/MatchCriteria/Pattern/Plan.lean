import MatchCriteria.Pattern.Diagnostic
import MatchCriteria.Pattern.LiteralTree
import MatchCriteria.Pattern.Utf8Range
import Std.Data.HashMap

/-!
# Plans of automata

A plan tells which states of an automaton are built, in order.  A state takes a fixed room,
and more for its ways on.  States for characters are used again where a state with the same
ways on is still remembered: the memory has a number of places, and a state takes the place
that its ways on determine, whatever stood there before.  So how many states there are depends
on the numbers of those built before.
-/

namespace MatchCriteria.Pattern

/-- The bytes of a state. -/
def stateSize : Nat := 32

/-- The bytes of a way on by a range of bytes. -/
def rangeSize : Nat := 8

/-- The bytes of a way on without a byte. -/
def branchSize : Nat := 4

/-- How many states have been built, and their bytes. -/
structure Built where
  /-- How many states there are; the next one has this number. -/
  states : Nat
  /-- The bytes of the states. -/
  bytes : Nat
  deriving DecidableEq, Repr

/-- What has been built with one more state, with bytes for its ways on. -/
def Built.add (b : Built) (waysOn : Nat) : Built := ⟨b.states + 1, b.bytes + stateSize + waysOn⟩

/-! ## States that are used again -/

/-- The place, among a number of places, of what some numbers describe. -/
def placeOf (places : UInt64) (description : List Nat) : UInt64 :=
  description.foldl (fun h n => (h ^^^ n.toUInt64) * 1099511628211) 14695981039346656037 % places

/-- What has been built, and the numbers of the states that are remembered, by their places,
with what each is remembered for. -/
structure Builder (κ : Type) where
  /-- What has been built. -/
  built : Built
  /-- What is remembered. -/
  known : Std.HashMap UInt64 (κ × Nat)

/-- The number of a new state, which is remembered for a key at a place. -/
def Builder.fresh {κ : Type} (b : Builder κ) (place : UInt64) (key : κ) (waysOn : Nat) :
    Nat × Builder κ :=
  let i := b.built.states
  (i, ⟨b.built.add waysOn, b.known.insert place (key, i)⟩)

/-- The number of the state that is remembered for a key at a place, or of a new one. -/
def Builder.state {κ : Type} [DecidableEq κ] (b : Builder κ) (place : UInt64) (key : κ)
    (waysOn : Nat) : Nat × Builder κ :=
  match b.known[place]? with
  | some (k, i) => if k = key then (i, b) else b.fresh place key waysOn
  | none => b.fresh place key waysOn

/-! ## Characters, read forward -/

/-- A tree of sequences: the sequences that start with a range, under that range. -/
inductive Branches where
  | node (children : List (ByteRange × Branches))

/-- The tree with one more sequence, which comes after all the others; the children stand in
descending order. -/
def Branches.insert : List ByteRange → Branches → Branches
  | [], t => t
  | r :: rest, .node children =>
    match children with
    | (s, child) :: others =>
      if r = s then .node ((s, Branches.insert rest child) :: others)
      else .node ((r, Branches.insert rest (.node [])) :: (s, child) :: others)
    | [] => .node [(r, Branches.insert rest (.node []))]

/-- The tree of sequences in ascending order. -/
def Branches.ofSequences (seqs : List (List ByteRange)) : Branches :=
  seqs.foldl (fun t seq => t.insert seq) (.node [])

/-- The ways on of a state by ranges of bytes, each to the number of another state. -/
abbrev Ways := List (ByteRange × Nat)

/-- How many places there are for states with ways on by ranges. -/
def waysPlaces : UInt64 := 10000

/-- The number of the state with some ways on. -/
def Builder.ways (b : Builder Ways) (w : Ways) : Nat × Builder Ways :=
  b.state (placeOf waysPlaces (w.flatMap fun way => [way.1.1, way.1.2, way.2])) w
    (rangeSize * w.length)

mutual

/-- The number of the state of a tree, of which the sequences lead to the state `target`. -/
def Branches.build (target : Nat) (b : Builder Ways) : Branches → Nat × Builder Ways
  | .node [] => (target, b)
  | .node (c :: cs) =>
    let (ways, b) := Branches.buildAll target b (c :: cs)
    b.ways ways

/-- The ways on, in ascending order, of the children of a tree, which stand in descending
order. -/
def Branches.buildAll (target : Nat) (b : Builder Ways) :
    List (ByteRange × Branches) → Ways × Builder Ways
  | [] => ([], b)
  | (r, t) :: rest =>
    let (ways, b) := Branches.buildAll target b rest
    let (i, b) := t.build target b
    (ways ++ [(r, i)], b)

end

/-! ## Characters, read backward -/

/-- A range of bytes and the state that it leads to. -/
abbrev Step := Nat × ByteRange

/-- How many places there are for states with one way on. -/
def stepPlaces : UInt64 := 1000

/-- The number of the state from which a range of bytes leads to a state. -/
def Builder.step (b : Builder Step) (next : Nat) (r : ByteRange) : Nat × Builder Step :=
  b.state (placeOf stepPlaces [next, r.1, r.2]) (next, r) 0

/-- What is built for sequences, each of which is read from its last range to its first and
leads to the state `target`. -/
def Builder.steps (b : Builder Step) (target : Nat) (seqs : List (List ByteRange)) :
    Builder Step :=
  seqs.foldl
    (fun b seq => (seq.foldl (fun (next, b) r => b.step next r) (target, b)).2) b

/-! ## Plans -/

/-- Which states are built, in order. -/
inductive Plan where
  /-- None. -/
  | nothing
  /-- One, with bytes for its ways on. -/
  | state (waysOn : Nat)
  /-- Those for one character of the sequences of a tree, read forward. -/
  | forward (tree : Branches)
  /-- Those for one character of some sequences, read backward. -/
  | backward (seqs : List (List ByteRange))
  /-- Those of one plan and then those of another. -/
  | both (first second : Plan)
  /-- Those of a plan, as often as said. -/
  | times (n : Nat) (plan : Plan)

/-- The result of a number of steps, or of the first of them that is beyond the limit. -/
def stepsWithin (step : Built → Built) : Nat → Built → Built
  | 0, b => b
  | n + 1, b => if sizeLimit < b.bytes then b else stepsWithin step n (step b)

namespace Plan

/-- A state that branches a number of ways. -/
def branch (ways : Nat) : Plan := .state (branchSize * ways)

/-- A state with no byte for ways on. -/
def plain : Plan := .state 0

/-- Some plans, one after the other. -/
def all (plans : List Plan) : Plan := plans.foldr .both .nothing

/-- What is built by a plan after what has been built before. -/
def build : Plan → Built → Built
  | nothing, b => b
  | state waysOn, b => b.add waysOn
  | forward tree, b => (tree.build b.states ⟨b.add 0, {}⟩).2.built
  | backward seqs, b =>
    let start := (b.add (branchSize * seqs.length)).add 0
    ((⟨start, {}⟩ : Builder Step).steps (b.states + 1) seqs).built
  | both p q, b => q.build (p.build b)
  | times n p, b => stepsWithin p.build n b

/-- Whether what a plan builds is within the limit. -/
def fits (p : Plan) : Bool := (p.build ⟨0, 0⟩).bytes ≤ sizeLimit

end Plan

end MatchCriteria.Pattern
