import MatchCriteria.Unicode.CaseFoldingTable
import MatchCriteria.Unicode.LowercaseTable
import MatchCriteria.Unicode.Property

/-!
# Case

Two code points are the same but for case when they have the same simple case folding.  The
lower case of a text is taken character by character, with two exceptions: a capital I with
a dot becomes two characters, and a capital sigma at the end of a word has a form of its own.
-/

namespace MatchCriteria.Unicode

/-- The pairs of a code point and the other one that it folds to. -/
def foldingPairs : List (Nat × Nat) := foldingTable.flatMap CaseRun.pairs

/-- The code points that are in the set but for case. -/
def closeUnderFolding (s : CodePointSet) : CodePointSet :=
  let folded := foldingPairs.filterMap fun (c, d) =>
    if s.contains c || s.contains d then some (d, d) else none
  let targets := CodePointSet.ofRanges folded
  let sources := foldingPairs.filterMap fun (c, d) =>
    if targets.contains d then some (c, c) else none
  .ofRanges (s.ranges.toList ++ folded ++ sources)

/-- The letters of ASCII that are in the set but for case, and the rest of the set. -/
def closeUnderAsciiFolding (s : CodePointSet) : CodePointSet :=
  let shifted (a b : Nat) (move : Nat → Nat) : List (Nat × Nat) :=
    s.ranges.toList.map fun r => (move (Nat.max r.1 a), move (Nat.min r.2 b))
  let clip (a b : Nat) (rs : List (Nat × Nat)) : List (Nat × Nat) :=
    rs.filter fun r => a ≤ r.1 && r.2 ≤ b
  .ofRanges (s.ranges.toList ++ clip 0x61 0x7A (shifted 0x41 0x5A (· + 0x20)) ++
    clip 0x41 0x5A (shifted 0x61 0x7A (· - 0x20)))

/-- The capital letter sigma. -/
def capitalSigma : Nat := 0x3A3

/-- The capital letter I with a dot above. -/
def capitalIWithDot : Nat := 0x130

/-- Whether a cased letter comes first, or only after characters that case ignores. -/
def startsCased (cs : List Char) : Bool :=
  match cs.dropWhile fun c => caseIgnorable.contains c.toNat with
  | [] => false
  | c :: _ => cased.contains c.toNat

/-- The lower case of a character between what comes before, last character first, and what
comes after. -/
def lowercaseChar (before : List Char) (c : Char) (after : List Char) : List Char :=
  if c.toNat = capitalIWithDot then ['i', Char.ofNat 0x307]
  else if c.toNat = capitalSigma then
    if startsCased before && !startsCased after then [Char.ofNat 0x3C2] else [Char.ofNat 0x3C3]
  else [Char.ofNat (CaseRun.lookup lowercaseTable c.toNat)]

/-- The lower case of a text that comes after `before`, last character first. -/
def lowercaseAfter (before : List Char) : List Char → List Char
  | [] => []
  | c :: cs => lowercaseChar before c cs ++ lowercaseAfter (c :: before) cs

/-- The lower case of a text. -/
def lowercaseText (cs : List Char) : List Char := lowercaseAfter [] cs

end MatchCriteria.Unicode
