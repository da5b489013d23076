/-!
# Comparison operators

The five ways in which an observed integer is compared with the value of a number matcher,
and the token each is written as.
-/

namespace MatchCriteria.Number

/-- A comparison of an observed integer, on the left, with a value. -/
inductive Operator where
  | eq
  | lt
  | le
  | gt
  | ge
  deriving DecidableEq, Repr

namespace Operator

/-- The token an operator is written as. -/
def token : Operator → String
  | eq => "=="
  | lt => "<"
  | le => "<="
  | gt => ">"
  | ge => ">="

/-- The operator that a token denotes. -/
def ofToken? : String → Option Operator
  | "==" => some eq
  | "<" => some lt
  | "<=" => some le
  | ">" => some gt
  | ">=" => some ge
  | _ => none

/-- Whether the comparison holds between an observed integer and a value. -/
def holds : Operator → Int → Int → Bool
  | eq, observed, value => observed = value
  | lt, observed, value => observed < value
  | le, observed, value => observed ≤ value
  | gt, observed, value => value < observed
  | ge, observed, value => value ≤ observed

@[simp] theorem ofToken?_token (op : Operator) :
  ofToken? op.token = some op
  := by
  cases op <;> rfl

theorem token_of_ofToken? {t : String} {op : Operator} (h : ofToken? t = some op) :
  op.token = t
  := by
  unfold ofToken? at h
  split at h <;> cases h <;> rfl

end Operator

end MatchCriteria.Number
