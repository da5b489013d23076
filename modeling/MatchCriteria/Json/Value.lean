/-!
# JSON values

A value keeps what a reader of matchers can tell apart: integers that fit 64 bits, other
numbers, and objects as the list of their members in the order written.  Of several members
of one name the last counts.
-/

namespace MatchCriteria.Json

/-- An integer that fits 64 bits, signed or not. -/
structure Integer where
  /-- The integer. -/
  val : Int
  /-- It is not below the signed range. -/
  lower : -0x8000000000000000 ≤ val
  /-- It is not above the unsigned range. -/
  upper : val < 0x10000000000000000
  deriving DecidableEq

/-- The integer, if it fits 64 bits. -/
def Integer.ofInt? (n : Int) : Option Integer :=
  if h : -0x8000000000000000 ≤ n ∧ n < 0x10000000000000000 then some ⟨n, h.1, h.2⟩ else none

/-- A JSON value.  A number written with a fraction or an exponent, or too large for an
`Integer`, or `-0`, is a `float`. -/
inductive Value where
  | null
  | boolean (value : Bool)
  | integer (value : Integer)
  | float (value : Float)
  | string (value : String)
  | array (items : List Value)
  | object (members : List (String × Value))

/-- The kinds of JSON values. -/
inductive Kind where
  | null
  | boolean
  | integer
  | float
  | string
  | array
  | object
  deriving DecidableEq, Repr

/-- The name of a kind. -/
def Kind.name : Kind → String
  | null => "null"
  | boolean => "boolean"
  | integer => "integer"
  | float => "float"
  | string => "string"
  | array => "array"
  | object => "object"

namespace Value

/-- The kind of a value. -/
def kind : Value → Kind
  | null => .null
  | boolean _ => .boolean
  | integer _ => .integer
  | float _ => .float
  | string _ => .string
  | array _ => .array
  | object _ => .object

/-- A number as JSON: an integer if it fits 64 bits. -/
def ofNat (n : Nat) : Value :=
  ((Integer.ofInt? n).map integer).getD (float n.toFloat)

end Value

/-- The value of the last member of a name. -/
def member? (members : List (String × Value)) (name : String) : Option Value :=
  (members.reverse.find? fun m => m.1 = name).map fun m => m.2

end MatchCriteria.Json
