/-!
# Hexadecimal integers

A token denotes an integer in base 16: an optional sign, an optional `0x` or `0X`, and at
least one digit of either case.  The written form has the sign `-` or none, the prefix `0x`
and lower-case digits without a leading zero.
-/

namespace MatchCriteria.Number.Hex

/-- The value of a hexadecimal digit of either case. -/
def digit? (c : Char) : Option Nat :=
  if '0' ≤ c ∧ c ≤ '9' then some (c.toNat - 48)
  else if 'a' ≤ c ∧ c ≤ 'f' then some (c.toNat - 87)
  else if 'A' ≤ c ∧ c ≤ 'F' then some (c.toNat - 55)
  else none

/-- The value of a sequence of digits read after a number of which `acc` is the value. -/
def digits? (acc : Nat) : List Char → Option Nat
  | [] => some acc
  | c :: cs => (digit? c).bind fun d => digits? (16 * acc + d) cs

/-- The text without the prefix `0x` or `0X`, if it has one. -/
def dropPrefix : List Char → List Char
  | '0' :: 'x' :: cs => cs
  | '0' :: 'X' :: cs => cs
  | cs => cs

/-- The value of a token without a sign. -/
def magnitude? (cs : List Char) : Option Nat :=
  match dropPrefix cs with
  | [] => none
  | c :: cs => digits? 0 (c :: cs)

/-- The integer that a token denotes. -/
def integer? : List Char → Option Int
  | '-' :: cs => (magnitude? cs).map fun (n : Nat) => -(n : Int)
  | '+' :: cs => (magnitude? cs).map fun (n : Nat) => (n : Int)
  | cs => (magnitude? cs).map fun (n : Nat) => (n : Int)

/-- The lower-case digit for a value below 16. -/
def digit (n : Nat) : Char :=
  if n < 10 then Char.ofNat (48 + n) else Char.ofNat (87 + n)

/-- The digits of a number, without a leading zero. -/
def digits (n : Nat) : List Char :=
  if n < 16 then [digit n] else digits (n / 16) ++ [digit (n % 16)]

/-- The written form of an integer. -/
def render (n : Int) : List Char :=
  if n < 0 then '-' :: '0' :: 'x' :: digits n.natAbs else '0' :: 'x' :: digits n.natAbs

end MatchCriteria.Number.Hex
