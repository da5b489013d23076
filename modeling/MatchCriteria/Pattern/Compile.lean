import MatchCriteria.Pattern.Elaboration
import MatchCriteria.Pattern.Grammar
import MatchCriteria.Pattern.Size

/-!
# Compiled patterns

A pattern is compiled when it follows the grammar, names only what there is, and is within
the limit of size.  A pattern that is to be followed through a text byte by byte, without
looking back, must meet other conditions instead.
-/

namespace MatchCriteria.Pattern

/-- The expression of a pattern, or why the pattern is refused. -/
def compile (source : String) : Except Error Expr :=
  match Tree.ofPattern source with
  | .error fault => .error (.malformed fault)
  | .ok tree =>
    match tree.expr false with
    | .error fault => .error (.malformed fault)
    | .ok e => if e.fits then .ok e else .error .tooLarge

/-- Whether a pattern can be followed through a text byte by byte: it is meant for texts only,
and asks nowhere if a character beyond ASCII is part of a word. -/
def canBeFollowed (source : String) : Bool :=
  match Tree.ofPattern source with
  | .error _ => false
  | .ok tree =>
    match tree.expr true with
    | .error _ => false
    | .ok e => !e.normal.asksForCharacters

end MatchCriteria.Pattern
