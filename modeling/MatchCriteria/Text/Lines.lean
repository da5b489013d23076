/-!
# Lines

A line ends at a line feed, or at a carriage return with a line feed after it; the end is no
part of the line.  What follows the last line feed is a line unless it is empty, and keeps
a carriage return at its end.
-/

namespace MatchCriteria.Text

/-- The line whose characters, last one first, stand before a line feed. -/
def closeLine : List Char → List Char
  | '\r' :: cs => cs.reverse
  | cs => cs.reverse

/-- The lines of a text that continues a line of which `before`, last character first, has
been read. -/
def linesAfter (before : List Char) : List Char → List (List Char)
  | [] => if before.isEmpty then [] else [before.reverse]
  | '\n' :: cs => closeLine before :: linesAfter [] cs
  | c :: cs => linesAfter (c :: before) cs

/-- The lines of a text. -/
def lines (cs : List Char) : List (List Char) := linesAfter [] cs

end MatchCriteria.Text
