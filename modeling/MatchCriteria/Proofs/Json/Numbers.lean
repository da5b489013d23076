import MatchCriteria.Json.Printer
import MatchCriteria.Json.Reader

/-!
# The integers of JSON

An integer in decimal is read back, as long as what follows it cannot continue a number.  Its
digits are read while they fit a word of 64 bits, and all of them do.
-/

namespace MatchCriteria.Json

/-- The text does not go on with what could be a part of a number. -/
def EndsNumber (rest : List Char) : Prop :=
  ∀ c ∈ rest.head?, isDigit c = false ∧ c ∉ ['.', 'e', 'E']

theorem takeWhile_isDigit {rest : List Char} (h : EndsNumber rest) :
  rest.takeWhile isDigit = []
  := by
  cases rest with
  | nil => rfl
  | cons c cs => simp [(h c rfl).1]

theorem dropWhile_isDigit {rest : List Char} (h : EndsNumber rest) :
  rest.dropWhile isDigit = rest
  := by
  cases rest with
  | nil => rfl
  | cons c cs => simp [(h c rfl).1]

/-! ### Digits -/

/-- The number that digits denote only grows with more digits. -/
theorem le_ofDigitChars (acc : Nat) (digits : List Char) :
  acc ≤ Nat.ofDigitChars 10 digits acc
  := by
  induction digits generalizing acc with
  | nil => apply Nat.le_of_eq Nat.ofDigitChars_nil.symm
  | cons c digits ih =>
    rw [Nat.ofDigitChars_cons]
    have h := ih (10 * acc + (c.toNat - '0'.toNat))
    omega

/-- Digits are read to the end of them when their number fits a word. -/
theorem significand_digits (acc : Nat) {digits rest : List Char}
    (hdigits : ∀ c ∈ digits, c.isDigit = true) (hrest : EndsNumber rest)
    (hfit : Nat.ofDigitChars 10 digits acc < 0x10000000000000000) :
  significand acc (digits ++ rest) = (Nat.ofDigitChars 10 digits acc, rest)
  := by
  induction digits generalizing acc with
  | nil =>
    cases rest with
    | nil => rfl
    | cons c cs => simp [significand, (hrest c rfl).1]
  | cons c digits ih =>
    rw [Nat.ofDigitChars_cons] at hfit ⊢
    have hle := le_ofDigitChars (10 * acc + (c.toNat - '0'.toNat)) digits
    have hc : isDigit c = true := hdigits c List.mem_cons_self
    have hstep : 10 * acc + digitValue c < 0x10000000000000000 := Nat.lt_of_le_of_lt hle hfit
    rw [List.cons_append, significand, hc, Bool.true_and, if_pos (decide_eq_true hstep)]
    apply ih _ (fun d hd => hdigits d (List.mem_cons_of_mem c hd)) hfit

/-- The digits of a number other than zero do not start with a zero. -/
theorem head?_toDigits_ne {n : Nat} (h : 0 < n) :
  (Nat.toDigits 10 n).head? ≠ some '0'
  := by
  induction n using Nat.strongRecOn with
  | ind n ih =>
    rw [Nat.toDigits_eq_if (by decide)]
    split
    · rw [List.head?_singleton, Ne, Option.some.injEq, Nat.digitChar_eq_zero]
      omega
    · have hpos : 0 < n / 10 := by omega
      obtain ⟨c, cs, hcs⟩ := List.exists_cons_of_ne_nil (@Nat.toDigits_ne_nil (n / 10) 10)
      have hc := ih (n / 10) (by omega) hpos
      rw [hcs] at hc ⊢
      apply hc

/-! ### Integers -/

/-- A number is an integer where the text does not go on after the digits that were read. -/
theorem number_integer {negative : Bool} {n : Nat} {i : Integer} {c : Char}
    {cs rest : List Char} (hc : isDigit c = true)
    (hread : (if c = '0' then (0, cs) else significand 0 (c :: cs)) = (n, rest))
    (hrest : EndsNumber rest)
    (hi : Integer.ofInt? (if negative = true then -(n : Int) else n) = some i)
    (hzero : ¬ (negative = true ∧ n = 0)) :
  number negative (c :: cs) = .ok (.integer i, rest)
  := by
  have hlead : ¬ (c = '0' ∧ rest.head?.any isDigit = true) := by
    rintro ⟨-, hany⟩
    cases rest with
    | nil => cases hany
    | cons d rest =>
      rw [List.head?_cons, Option.any_some, (hrest d rfl).1] at hany
      cases hany
  rw [number, if_pos hc, hread]
  simp only [hlead, if_false, takeWhile_isDigit hrest, dropWhile_isDigit hrest]
  split
  · cases (hrest _ rfl).2 (by decide)
  · cases (hrest _ rfl).2 (by decide)
  · cases (hrest _ rfl).2 (by decide)
  · simp only [hi, List.isEmpty_nil]
    rw [if_pos]
    rw [Bool.not_eq_true', decide_eq_false_iff_not]
    exact ⟨trivial, hzero⟩

/-- An unsigned integer in decimal is read back with the sign before it. -/
theorem number_toDigits {negative : Bool} {n : Nat} {i : Integer} {rest : List Char}
    (hi : i.val = if negative = true then -(n : Int) else n)
    (hzero : ¬ (negative = true ∧ n = 0)) (hrest : EndsNumber rest) :
  number negative (Nat.toDigits 10 n ++ rest) = .ok (.integer i, rest)
  := by
  have hfit : n < 0x10000000000000000 := by
    have hlower := i.lower
    have hupper := i.upper
    split at hi <;> omega
  have hdigits : ∀ c ∈ Nat.toDigits 10 n, c.isDigit = true := by
    intro c hc
    apply Nat.isDigit_of_mem_toDigits (by decide) (by decide) hc
  have hvalue : Nat.ofDigitChars 10 (Nat.toDigits 10 n) 0 = n := Nat.ofDigitChars_ten_toDigits
  have hread := significand_digits 0 hdigits hrest (by rw [hvalue]; exact hfit)
  have hsigned : Integer.ofInt? (if negative = true then -(n : Int) else n) = some i := by
    rw [← hi, Integer.ofInt?, dif_pos ⟨i.lower, i.upper⟩]
  obtain ⟨c, cs, hcs⟩ := List.exists_cons_of_ne_nil (@Nat.toDigits_ne_nil n 10)
  rw [hvalue, hcs] at hread
  have hc : isDigit c = true := hdigits c (by rw [hcs]; exact List.mem_cons_self)
  rw [hcs, List.cons_append]
  apply number_integer hc _ hrest hsigned hzero
  -- A zero stands alone, so what is left after it is the rest.
  split
  · rename_i hc0
    subst hc0
    cases Nat.eq_zero_or_pos n with
    | inl hn =>
      subst hn
      rw [Nat.toDigits_zero] at hcs
      cases hcs
      rfl
    | inr hn =>
      exfalso
      apply head?_toDigits_ne hn
      rw [hcs, List.head?_cons]
  · apply hread

end MatchCriteria.Json
