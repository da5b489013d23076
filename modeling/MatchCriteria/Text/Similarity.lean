/-!
# Similar names

The similarity of two names counts the characters they share within half their length, and
of those how many stand in another order.  It lies between 0 and 1, and names are similar
above 0.7.
-/

namespace MatchCriteria.Text

/-- Marks the first unmarked place of a character among the places from `least` to before
`bound`; the places are counted from `i`. -/
def markFirst (c : Char) (least bound i : Nat) :
    List (Char × Bool) → Option (List (Char × Bool))
  | [] => none
  | (d, marked) :: rest =>
    if bound ≤ i then none
    else if least ≤ i && c = d && !marked then some ((d, true) :: rest)
    else (markFirst c least bound (i + 1) rest).map ((d, marked) :: ·)

/-- The characters of a text, counted from `i`, that find a partner at most `range` places
away, and the other text with the partners marked.  Each takes the first partner that is
left. -/
def partnersFrom (range i : Nat) : List Char → List (Char × Bool) →
    List Char × List (Char × Bool)
  | [], other => ([], other)
  | c :: cs, other =>
    match markFirst c (i - range) (i + range + 1) 0 other with
    | some marked =>
      let (found, rest) := partnersFrom range (i + 1) cs marked
      (c :: found, rest)
    | none => partnersFrom range (i + 1) cs other

/-- The similarity of two texts. -/
def similarity (a b : List Char) : Float :=
  if a.isEmpty && b.isEmpty then 1
  else
    let range := max a.length b.length / 2 - 1
    let (found, marked) := partnersFrom range 0 a (b.map fun c => (c, false))
    let partners := (marked.filter fun p => p.2).map fun p => p.1
    let swapped := ((found.zip partners).filter fun p => p.1 ≠ p.2).length / 2
    let n := found.length
    if n = 0 then 0
    else
      (n.toFloat / a.length.toFloat + n.toFloat / b.length.toFloat +
        (n - swapped).toFloat / n.toFloat) / 3

/-- The names that are similar to a text, the most similar one last. -/
def similarNames (text : String) (names : List String) : List String :=
  let scored := names.map fun name => (similarity text.toList name.toList, name)
  let similar := scored.filter fun s => s.1 > 0.7
  (similar.mergeSort fun s t => s.1 ≤ t.1).map fun s => s.2

/-- The name that is most similar to a text, if one is similar. -/
def mostSimilar? (text : String) (names : List String) : Option String :=
  (similarNames text names).getLast?

end MatchCriteria.Text
