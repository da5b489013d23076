/-!
# Styled text

A style is switched on by escape sequences, one for each of its codes, and switched off by
the sequence of the code 0.  Markup is a text in parts, each with a style; the style without
codes leaves its part as it is.
-/

namespace MatchCriteria.Text

/-- The codes of a style, in the order in which they are switched on. -/
abbrev Style := List Nat

/-- The escape sequence of a code. -/
def escapeSequence (code : Nat) : List Char :=
  ['\x1b', '['] ++ (toString code).toList ++ ['m']

/-- The sequences that switch a style on. -/
def Style.start (s : Style) : List Char := s.flatMap escapeSequence

/-- A part of a text between the sequences that switch a style on and off. -/
def paint (s : Style) (part : List Char) : List Char :=
  s.start ++ part ++ escapeSequence 0

/-- A part of a text in a style where there is any. -/
def Style.apply (s : Style) (part : List Char) : List Char :=
  if s.isEmpty then part else paint s part

/-- A text in parts, each with its style. -/
abbrev Markup := List (Style × String)

namespace Markup

/-- A text without styles. -/
def plain (text : String) : Markup := [([], text)]

/-- A text with the escape sequences of its styles. -/
def render (m : Markup) : List Char := m.flatMap fun part => part.1.apply part.2.toList

/-- A text without the escape sequences of its styles. -/
def bare (m : Markup) : List Char := m.flatMap fun part => part.2.toList

/-- How many characters of a text are shown. -/
def width (m : Markup) : Nat := m.bare.length

end Markup

end MatchCriteria.Text
