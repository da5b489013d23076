/-!
# Integers of 128 bits

The integers from `-2^127` up to, and not including, `2^127`: the range in which
observations and the values of number matchers live.
-/

namespace MatchCriteria.Number

/-- An integer in the range of two's complement with 128 bits. -/
structure Int128 where
  /-- The integer. -/
  val : Int
  /-- It is not below the range. -/
  lower : -0x80000000000000000000000000000000 ≤ val
  /-- It is not above the range. -/
  upper : val < 0x80000000000000000000000000000000
  deriving DecidableEq

namespace Int128

/-- The integer as an element of the range, if it lies there. -/
def ofInt? (n : Int) : Option Int128 :=
  if h : -0x80000000000000000000000000000000 ≤ n ∧ n < 0x80000000000000000000000000000000 then
    some ⟨n, h.1, h.2⟩
  else none

/-- The least integer of the range. -/
def min : Int128 := ⟨-0x80000000000000000000000000000000, by decide, by decide⟩

/-- The greatest integer of the range. -/
def max : Int128 := ⟨0x80000000000000000000000000000000 - 1, by decide, by decide⟩

theorem ext_val {a b : Int128} (h : a.val = b.val) :
  a = b
  := by
  cases a
  cases b
  cases h
  rfl

@[simp] theorem ofInt?_val (a : Int128) :
  ofInt? a.val = some a
  := by
  simp only [ofInt?, a.lower, a.upper, and_self, dite_true]

theorem ofInt?_eq_some_iff (n : Int) (a : Int128) :
  ofInt? n = some a ↔ a.val = n
  := by
  constructor
  · intro h
    unfold ofInt? at h
    split at h
    · cases h
      rfl
    · cases h
  · rintro rfl
    exact ofInt?_val a

theorem ofInt?_eq_none_iff (n : Int) :
  ofInt? n = none ↔
    n < -0x80000000000000000000000000000000 ∨ 0x80000000000000000000000000000000 ≤ n
  := by
  unfold ofInt?
  split <;> simp <;> omega

end Int128

end MatchCriteria.Number
