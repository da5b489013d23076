/-!
# Runs of case pairs

The case maps of Unicode are regular over long stretches: every code point of a stretch, or
every second one, goes to the code point at one fixed distance.  A `CaseRun` is such a
stretch, and a table of case is a list of them.
-/

namespace MatchCriteria.Unicode

/-- The code points `first`, `first + step`, …, `last`, each of which goes to the code point
at the distance `offset`. -/
structure CaseRun where
  /-- The first code point. -/
  first : Nat
  /-- The last code point. -/
  last : Nat
  /-- The distance between neighbours. -/
  step : Nat
  /-- The distance from a code point to its image. -/
  offset : Int
  deriving DecidableEq, Repr

namespace CaseRun

/-- Whether the run maps a code point. -/
def covers (r : CaseRun) (c : Nat) : Bool :=
  r.first ≤ c && c ≤ r.last && (c - r.first) % r.step = 0

/-- The image of a code point that the run maps. -/
def image (r : CaseRun) (c : Nat) : Nat := ((c : Int) + r.offset).toNat

/-- The pairs of a code point that the run maps and its image. -/
def pairs (r : CaseRun) : List (Nat × Nat) :=
  (List.range ((r.last - r.first) / r.step + 1)).map fun i =>
    let c := r.first + i * r.step
    (c, r.image c)

/-- The image of a code point under a table; a code point that no run maps is its own. -/
def lookup (table : List CaseRun) (c : Nat) : Nat :=
  match table.find? fun r => r.covers c with
  | some r => r.image c
  | none => c

end CaseRun

end MatchCriteria.Unicode
