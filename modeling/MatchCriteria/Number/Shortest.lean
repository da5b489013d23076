/-!
# The shortest decimal of a binary fraction

A finite number of double precision is `m * 2 ^ q`, and a decimal denotes it when it is
nearer to it than to its neighbours.  Of those decimals one of the fewest digits is written,
and of these the nearest.  The search is exact: it tries one digit, then two, and so on, and
tests the two decimals around the number on each grid.
-/

namespace MatchCriteria.Number

/-- A decimal: the digits as a number, times a power of ten. -/
structure Decimal where
  /-- The digits. -/
  digits : Nat
  /-- The power of ten. -/
  exponent : Int
  deriving DecidableEq, Repr

namespace Decimal

/-- The decimal without zeros at the end of its digits. -/
def normalize (fuel : Nat) (d : Decimal) : Decimal :=
  match fuel with
  | 0 => d
  | fuel + 1 =>
    if d.digits ≠ 0 ∧ d.digits % 10 = 0 then normalize fuel ⟨d.digits / 10, d.exponent + 1⟩
    else d

/-- The shortest decimal of `m * 2 ^ q` for a positive `m`; `atPower` tells that the gap to
the neighbour below is half the gap to the one above. -/
def shortest (m : Nat) (q : Int) (atPower : Bool) : Decimal :=
  -- The number and the ends of its interval, in units of a quarter of `2 ^ q`.
  let value := 4 * m
  let low := if atPower then 4 * m - 1 else 4 * m - 2
  let high := 4 * m + 2
  let unit := q - 2
  -- `x * 2 ^ unit / 10 ^ step` is `x * up step / down step`.
  let up (step : Int) : Nat := Nat.pow 2 unit.toNat * Nat.pow 10 (-step).toNat
  let down (step : Int) : Nat := Nat.pow 2 (-unit).toNat * Nat.pow 10 step.toNat
  let magnitude : Int :=
    match (List.range 660).find? fun k =>
      value * up (Int.ofNat k - 340) < down (Int.ofNat k - 340) with
    | some k => Int.ofNat k - 340
    | none => 320
  let closed := m % 2 = 0
  let inside (d : Nat) (step : Int) : Bool :=
    let x := d * down step
    if closed then low * up step ≤ x && x ≤ high * up step
    else low * up step < x && x < high * up step
  let onGrid (n : Nat) : Option Decimal :=
    let step := magnitude - (n : Int)
    let below := value * up step / down step
    let remainder := value * up step - below * down step
    let belowNearer := 2 * remainder < down step || (2 * remainder = down step && below % 2 = 0)
    match inside below step && 0 < below, inside (below + 1) step with
    | true, true => some ⟨if belowNearer then below else below + 1, step⟩
    | true, false => some ⟨below, step⟩
    | false, true => some ⟨below + 1, step⟩
    | false, false => none
  match (List.range 17).findSome? fun n => onGrid (n + 1) with
  | some d => d.normalize 20
  | none => ⟨value * up (magnitude - 17) / down (magnitude - 17), magnitude - 17⟩

end Decimal

/-- The text of a finite number of double precision: positional where the point falls within
or near its digits, with an exponent elsewhere, and never without a fraction or exponent. -/
def doubleText (x : Float) : String :=
  let bits : Nat := x.toBits.toNat
  let sign := if 0x8000000000000000 ≤ bits then "-" else ""
  let biased : Nat := bits / 0x10000000000000 % 0x800
  let fraction : Nat := bits % 0x10000000000000
  if biased = 0 ∧ fraction = 0 then sign ++ "0.0"
  else
    let d :=
      if biased = 0 then Decimal.shortest fraction (-1074) false
      else
        Decimal.shortest (0x10000000000000 + fraction) (Int.ofNat biased - 1075)
          (fraction = 0 && 1 < biased)
    let digits := (toString d.digits).toList
    let count := (digits.length : Int)
    let point := count + d.exponent
    let zeros (n : Int) : List Char := List.replicate n.toNat '0'
    let body : List Char :=
      if 0 ≤ d.exponent ∧ point ≤ 16 then digits ++ zeros d.exponent ++ ['.', '0']
      else if 0 < point ∧ point ≤ 16 then
        digits.take point.toNat ++ ['.'] ++ digits.drop point.toNat
      else if -5 < point ∧ point ≤ 0 then ['0', '.'] ++ zeros (-point) ++ digits
      else
        let tail := digits.drop 1
        digits.take 1 ++ (if tail.isEmpty then [] else '.' :: tail) ++ ['e'] ++
          (if 0 < point then ['+'] else ['-']) ++ (toString (point - 1).natAbs).toList
    sign ++ String.ofList body

end MatchCriteria.Number
