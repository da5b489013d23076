/-!
# Sets of code points

A set of code points is kept as the array of its maximal ranges, in ascending order, so that
membership is a binary search.  The same ranges serve for sets of bytes.  The tables of this
library write a set as hexadecimal tokens: `41` is one code point, `41-5A` a range, and
`100-12E/2` every second code point of a range; the lines of a table are strings.
-/

namespace MatchCriteria.Unicode

/-- The greatest code point. -/
def lastCodePoint : Nat := 0x10FFFF

/-- The range of code points that are no characters. -/
def surrogates : Nat × Nat := (0xD800, 0xDFFF)

/-- A set of code points: ranges from a first to a last one, ascending, with gaps between. -/
structure CodePointSet where
  /-- The ranges. -/
  ranges : Array (Nat × Nat)
  deriving DecidableEq, Repr

namespace CodePointSet

/-- The ranges, which ascend by their first elements, with those that meet made one. -/
def coalesce : List (Nat × Nat) → List (Nat × Nat)
  | [] => []
  | r :: rest => go r rest
where
  /-- The ranges from `r` on. -/
  go (r : Nat × Nat) : List (Nat × Nat) → List (Nat × Nat)
    | [] => [r]
    | s :: rest =>
      if s.1 ≤ r.2 + 1 then go (r.1, Nat.max r.2 s.2) rest else r :: go s rest

/-- The set of the elements of some ranges; a range that ends before it begins has none. -/
def ofRanges (rs : List (Nat × Nat)) : CodePointSet :=
  let proper := rs.filter fun r => r.1 ≤ r.2
  ⟨(coalesce (proper.mergeSort fun r s => r.1 ≤ s.1)).toArray⟩

/-- The empty set. -/
def empty : CodePointSet := ⟨#[]⟩

/-- The set of one code point. -/
def singleton (c : Nat) : CodePointSet := ⟨#[(c, c)]⟩

/-- The set of a range. -/
def range (a b : Nat) : CodePointSet := ofRanges [(a, b)]

/-- Whether no code point is in the set. -/
def isEmpty (s : CodePointSet) : Bool := s.ranges.isEmpty

/-- The elements of either set. -/
def union (s t : CodePointSet) : CodePointSet := ofRanges (s.ranges.toList ++ t.ranges.toList)

/-- The elements of any of the sets. -/
def unions (ss : List CodePointSet) : CodePointSet :=
  ofRanges (ss.flatMap fun s => s.ranges.toList)

/-- The ranges between `from` and `top` that some ascending ranges leave out. -/
def gaps (top : Nat) : Nat → List (Nat × Nat) → List (Nat × Nat)
  | next, [] => if next ≤ top then [(next, top)] else []
  | next, r :: rest =>
    if next < r.1 then (next, r.1 - 1) :: gaps top (r.2 + 1) rest else gaps top (r.2 + 1) rest

/-- The numbers up to `top` that are not in the set. -/
def complementTo (top : Nat) (s : CodePointSet) : CodePointSet :=
  ⟨(gaps top 0 s.ranges.toList).toArray⟩

/-- The code points, surrogates apart, that are not in the set. -/
def complement (s : CodePointSet) : CodePointSet :=
  complementTo lastCodePoint (s.union ⟨#[surrogates]⟩)

/-- The elements of both sets. -/
def inter (s t : CodePointSet) : CodePointSet :=
  complementTo lastCodePoint ((complementTo lastCodePoint s).union (complementTo lastCodePoint t))

/-- The elements of the first set that are not in the second. -/
def diff (s t : CodePointSet) : CodePointSet := s.inter (complementTo lastCodePoint t)

/-- The elements of exactly one of the sets. -/
def symmDiff (s t : CodePointSet) : CodePointSet := (s.union t).diff (s.inter t)

/-- Whether a range from index `lo` up to, and not including, `hi` holds the code point. -/
def containsBetween (ranges : Array (Nat × Nat)) (c lo hi : Nat) : Bool :=
  if lo < hi then
    let mid := (lo + hi) / 2
    match ranges[mid]? with
    | none => false
    | some (a, b) =>
      if c < a then containsBetween ranges c lo mid
      else if b < c then containsBetween ranges c (mid + 1) hi
      else true
  else false
termination_by hi - lo

/-- Whether a code point is in the set. -/
def contains (s : CodePointSet) (c : Nat) : Bool := containsBetween s.ranges c 0 s.ranges.size

/-- How many code points the set has. -/
def size (s : CodePointSet) : Nat := s.ranges.foldl (fun n r => n + (r.2 + 1 - r.1)) 0

/-- The only element of a set that has exactly one. -/
def single? (s : CodePointSet) : Option Nat :=
  match s.ranges.toList with
  | [(a, b)] => if a = b then some a else none
  | _ => none

/-- The number that hexadecimal digits in upper case denote. -/
def hexNumber (digits : String) : Nat :=
  digits.foldl (fun n c => 16 * n + (if c ≤ '9' then c.toNat - 48 else c.toNat - 55)) 0

/-- The ranges that a token of a table denotes. -/
def tokenRanges (token : String) : List (Nat × Nat) :=
  match token.splitOn "-" with
  | [a] => [(hexNumber a, hexNumber a)]
  | [a, rest] =>
    match rest.splitOn "/" with
    | [b, stride] =>
      let first := hexNumber a
      let step := hexNumber stride
      (List.range ((hexNumber b - first) / step + 1)).map fun i =>
        (first + i * step, first + i * step)
    | _ => [(hexNumber a, hexNumber rest)]
  | _ => []

/-- The set that the lines of a table write as tokens with single blanks between. -/
def ofTable (lines : List String) : CodePointSet :=
  ofRanges (lines.flatMap fun line => (line.splitOn " ").flatMap tokenRanges)

end CodePointSet

end MatchCriteria.Unicode
