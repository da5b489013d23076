import MatchCriteria.Log.Directive

/-!
# Filters

A filter is a list of directives, separated by commas.  An event is told if the level of the
most specific directive about it admits debugging; of two that are equally specific the later
one counts.  If one of the directives cannot be read, nothing is told.
-/

namespace MatchCriteria.Log

/-- A list of directives. -/
abbrev Filter := List Directive

namespace Filter

/-- The filter of a text. -/
def ofText (text : String) : Filter :=
  let parts := (text.toList.splitOn ',').filter fun part => !part.isEmpty
  (parts.mapM Directive.ofText?).getD []

/-- The directive that decides about an event, if one is about it. -/
def decisive? (f : Filter) (e : Event) : Option Directive :=
  (f.filter fun d => d.concerns e).foldl (fun best d =>
    match best with
    | some b => if d.outranks b then some d else some b
    | none => some d) none

/-- Whether an event is told. -/
def admits (f : Filter) (e : Event) : Bool :=
  match f.decisive? e with
  | some d => Level.debug.rank ≤ d.level.rank
  | none => false

end Filter

end MatchCriteria.Log
