import MatchCriteria.Json.Value
import MatchCriteria.Pattern.Diagnostic

/-!
# Why a matcher cannot be built

Every failure happens while a matcher is built or an observation is read.
-/

namespace MatchCriteria

/-- What is wrong with a field of a structured matcher. -/
inductive SchemaFault where
  /-- A required field is missing, or null. -/
  | missing (name : String)
  /-- A field holds something other than a string. -/
  | notString (name : String) (found : Json.Kind)
  /-- The field was looked for in something other than an object. -/
  | notObject (name : String) (found : Json.Kind)
  deriving DecidableEq, Repr

/-- The wording of a schema fault. -/
def SchemaFault.message : SchemaFault → String
  | missing name => "missing required field `" ++ name ++ "`"
  | notString name found => "field `" ++ name ++ "` must be a string, found " ++ found.name
  | notObject name found =>
    "expected an object with field `" ++ name ++ "`, found " ++ found.name

/-- Why a matcher cannot be built, or an observation not be read. -/
inductive MatcherError where
  /-- A field of a structured matcher is missing or of the wrong kind. -/
  | schema (fault : SchemaFault)
  /-- The source of a pattern is refused. -/
  | invalidPattern (source : String) (reason : Pattern.Error)
  /-- No match type and no comparison is written as this token. -/
  | unknownOperator (token : String)
  /-- The token denotes no integer in range. -/
  | invalidNumber (token : String)
  /-- Matchers are not built from values of this kind. -/
  | unacceptedKind (kind : Json.Kind)
  deriving DecidableEq, Repr

/-- The wording of a failure. -/
def MatcherError.message : MatcherError → String
  | schema fault => "schema error: " ++ fault.message
  | invalidPattern source reason => "error in regular expression: " ++ reason.message source
  | unknownOperator token => "unknown match operator specified: " ++ token
  | invalidNumber token => "invalid number specified: " ++ token
  | unacceptedKind kind => "invalid type " ++ kind.name ++ " in matcher"

end MatchCriteria
