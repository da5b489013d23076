import MatchCriteria.Error
import MatchCriteria.Number.Hex
import MatchCriteria.Number.Int128
import MatchCriteria.Number.Operator
import MatchCriteria.Text.Blank

/-!
# Number matchers

A number matcher is a predicate on an observed integer, which may be absent.  It is written
as the empty text, which matches absence alone; as a hexadecimal integer, which matches that
integer; or as a comparison token, blanks, and a hexadecimal integer.
-/

namespace MatchCriteria

open Number

/-- A predicate on an integer that may be absent. -/
structure NumberMatcher where
  /-- How an observed integer has to compare with the value. -/
  operator : Operator
  /-- The value; none where the absence of an integer is to be matched. -/
  value? : Option Int128
  /-- Where there is nothing to compare with, the operator is equality. -/
  operator_of_absent : value? = none → operator = .eq
  deriving DecidableEq

namespace NumberMatcher

/-- The matcher of absence. -/
def absent : NumberMatcher := ⟨.eq, none, fun _ => rfl⟩

/-- The matcher of the integers that compare with the value as the operator says. -/
def compare (op : Operator) (value : Int128) : NumberMatcher := ⟨op, some value, nofun⟩

/-- The matcher of one integer. -/
def ofInteger (n : Int128) : NumberMatcher := compare .eq n

/-- The matcher of a signed integer of 64 bits. -/
def ofInt64 (n : Int64) : NumberMatcher :=
  ofInteger ⟨n.toInt, by have := n.le_toInt; omega, by have := n.toInt_lt; omega⟩

/-- The matcher of an unsigned integer of 64 bits. -/
def ofUInt64 (n : UInt64) : NumberMatcher :=
  ofInteger ⟨n.toNat, by omega, by have := n.toNat_lt; omega⟩

/-- Every matcher is that of absence, or a comparison. -/
@[cases_eliminator]
theorem absent_or_compare {motive : NumberMatcher → Prop} (absent : motive absent)
    (compare : ∀ op n, motive (compare op n)) (m : NumberMatcher) :
  motive m
  := by
  obtain ⟨op, value?, h⟩ := m
  cases value? with
  | none =>
    obtain rfl := h rfl
    exact absent
  | some n => exact compare op n

/-- Whether the matcher matches absence. -/
def isAbsent (m : NumberMatcher) : Bool := m.value?.isNone

/-- Whether an observation satisfies the matcher. -/
def Matches (m : NumberMatcher) (observed : Option Int128) : Bool :=
  match observed, m.value? with
  | none, value? => value?.isNone
  | some _, none => false
  | some n, some value => m.operator.holds n.val value.val

/-- The integer in range that a token denotes. -/
def integer (token : List Char) : Except MatcherError Int128 :=
  match (Hex.integer? token).bind Int128.ofInt? with
  | some n => .ok n
  | none => .error (.invalidNumber (String.ofList token))

/-- The operator that a token denotes. -/
def operatorOf (token : List Char) : Except MatcherError Operator :=
  match Operator.ofToken? (String.ofList token) with
  | some op => .ok op
  | none => .error (.unknownOperator (String.ofList token))

/-- The matcher written as a text.  Only the empty text is the matcher of absence; blanks
around anything else do not count. -/
def ofText (text : String) : Except MatcherError NumberMatcher :=
  if text = "" then .ok absent
  else
    let body := Text.trim text.toList
    match Text.splitAtBlank? body with
    | some (token, number) => do
      let op ← operatorOf token
      return compare op (← integer number)
    | none => return compare .eq (← integer body)

/-- The matcher that a JSON value describes: a string is the written form, an integer the
matcher of that integer. -/
def ofJson : Json.Value → Except MatcherError NumberMatcher
  | .string text => ofText text
  | .integer n =>
    .ok (ofInteger ⟨n.val, by have := n.lower; omega, by have := n.upper; omega⟩)
  | value => .error (.unacceptedKind value.kind)

/-- The written form; the operator is left out where it is equality. -/
def render (m : NumberMatcher) : String :=
  match m.value? with
  | none => ""
  | some n =>
    let before := if m.operator = .eq then "" else m.operator.token ++ " "
    before ++ String.ofList (Hex.render n.val)

/-- The JSON value that describes the matcher. -/
def encode (m : NumberMatcher) : Json.Value := .string m.render

/-- The observation written as a text: absent where there are only blanks. -/
def observation (text : String) : Except MatcherError (Option Int128) :=
  match Text.trim text.toList with
  | [] => .ok none
  | token => (integer token).map some

end NumberMatcher

end MatchCriteria
