import MatchCriteria.Error

/-!
# Fields that hold strings

A structured matcher is an object, of which fields are read that hold strings.  A field that
is null counts as missing.
-/

namespace MatchCriteria.Json

/-- The string that a member holds, if there is such a member; a required member has to be
there. -/
def stringMember (members : List (String × Value)) (name : String) (required : Bool) :
    Except MatcherError (Option String) :=
  match member? members name with
  | none | some .null =>
    if required then .error (.schema (.missing name)) else .ok none
  | some (.string s) => .ok (some s)
  | some other => .error (.schema (.notString name other.kind))

/-- The string that a field of a value holds; the value has to be an object. -/
def stringField (v : Value) (name : String) (required : Bool) :
    Except MatcherError (Option String) :=
  match v with
  | .object members => stringMember members name required
  | other => .error (.schema (.notObject name other.kind))

end MatchCriteria.Json
