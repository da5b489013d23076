import Mathlib.Tactic.WLOG
import MatchCriteria.Number.Matcher

/-!
# Number matchers that match the same

A comparison accepts the integers of the range that lie between two bounds.  So two comparisons
match the same observations when they have the same bounds, or when there is nothing between the
bounds of either.  Different matchers do so only in a few pairs: those that stand next to each
other, and those at an end of the range.
-/

namespace MatchCriteria.NumberMatcher

open Number (Int128 Operator)

/-- The least integer that compares with a value as an operator says. -/
def least (n : Int128) : Operator → Int
  | .eq => n.val
  | .lt => Int128.min.val
  | .le => Int128.min.val
  | .gt => n.val + 1
  | .ge => n.val

/-- The greatest integer that compares with a value as an operator says. -/
def greatest (n : Int128) : Operator → Int
  | .eq => n.val
  | .lt => n.val - 1
  | .le => n.val
  | .gt => Int128.max.val
  | .ge => Int128.max.val

/-- An integer lies between the bounds of a comparison. -/
def Accepts (op : Operator) (n : Int128) (x : Int) : Prop := least n op ≤ x ∧ x ≤ greatest n op

/-- Two comparisons have the same bounds, or nothing lies between the bounds of either. -/
def SameBounds (op : Operator) (m : Int128) (op' : Operator) (n : Int128) : Prop :=
  least m op = least n op' ∧ greatest m op = greatest n op' ∨
    greatest m op < least m op ∧ greatest n op' < least n op'

/-- Two different matchers that match the same observations: comparisons with neighbours, the
two that accept nothing, the two that accept every integer, and those that accept only one of
the ends of the range. -/
inductive Twins : NumberMatcher → NumberMatcher → Prop where
  | below {n next : Int128} (h : next.val = n.val + 1) :
      Twins (compare .lt next) (compare .le n)
  | above {n next : Int128} (h : next.val = n.val + 1) :
      Twins (compare .gt n) (compare .ge next)
  | nothing : Twins (compare .lt .min) (compare .gt .max)
  | everything : Twins (compare .le .max) (compare .ge .min)
  | leastLe : Twins (compare .eq .min) (compare .le .min)
  | leastLt {next : Int128} (h : next.val = Int128.min.val + 1) :
      Twins (compare .eq .min) (compare .lt next)
  | greatestGe : Twins (compare .eq .max) (compare .ge .max)
  | greatestGt {last : Int128} (h : Int128.max.val = last.val + 1) :
      Twins (compare .eq .max) (compare .gt last)

/-! ### Bounds -/

theorem min_le (n : Int128) :
  Int128.min.val ≤ n.val
  := n.lower

theorem le_max (n : Int128) :
  n.val ≤ Int128.max.val
  := Int.le_sub_one_of_lt n.upper

/-- A comparison matches the integers between its bounds. -/
theorem matches_some_iff (op : Operator) (n observed : Int128) :
  (compare op n).Matches (some observed) = true ↔ Accepts op n observed.val
  := by
  have hlower := min_le observed
  have hupper := le_max observed
  cases op <;> simp only [Matches, compare, Operator.holds, Accepts, least, greatest,
    decide_eq_true_iff] <;> omega

/-- Only integers of the range lie between the bounds. -/
theorem Accepts.mem_range {op : Operator} {n : Int128} {x : Int} (h : Accepts op n x) :
  Int128.min.val ≤ x ∧ x ≤ Int128.max.val
  := by
  have hlower := min_le n
  have hupper := le_max n
  cases op <;> dsimp only [Accepts, least, greatest] at h <;> omega

theorem accepts_iff_of_matches {op op' : Operator} {m n : Int128}
    (h : ∀ observed : Int128,
      (compare op m).Matches (some observed) = (compare op' n).Matches (some observed)) (x : Int) :
  Accepts op m x ↔ Accepts op' n x
  := by
  have hrange (hx : Int128.min.val ≤ x ∧ x ≤ Int128.max.val) :
      Accepts op m x ↔ Accepts op' n x := by
    have hobserved := h ⟨x, hx.1, Int.lt_of_le_sub_one hx.2⟩
    rwa [Bool.eq_iff_iff, matches_some_iff, matches_some_iff] at hobserved
  constructor
  · intro hx
    apply (hrange hx.mem_range).mp hx
  · intro hx
    apply (hrange hx.mem_range).mpr hx

/-- Comparisons match the same integers when they have the same bounds, or nothing lies between
the bounds of either. -/
theorem matches_some_eq_iff (op op' : Operator) (m n : Int128) :
  (∀ observed : Int128,
      (compare op m).Matches (some observed) = (compare op' n).Matches (some observed)) ↔
    SameBounds op m op' n
  := by
  constructor
  · intro h
    have haccepts := accepts_iff_of_matches h
    have hm := And.intro (haccepts (least m op)) (haccepts (greatest m op))
    have hn := And.intro (haccepts (least n op')) (haccepts (greatest n op'))
    simp only [Accepts, SameBounds] at hm hn ⊢
    omega
  · intro h observed
    rw [Bool.eq_iff_iff, matches_some_iff, matches_some_iff]
    simp only [Accepts, SameBounds] at h ⊢
    omega

/-! ### Pairs -/

/-- Comparisons by the same operator are alike only if they have the same value. -/
theorem sameBounds_self_iff (op : Operator) (m n : Int128) :
  SameBounds op m op n ↔ m = n
  := by
  constructor
  · intro h
    have hm := And.intro (min_le m) (le_max m)
    have hn := And.intro (min_le n) (le_max n)
    apply Int128.ext_val
    cases op <;> dsimp only [SameBounds, least, greatest] at h <;> omega
  · rintro rfl
    apply Or.inl ⟨rfl, rfl⟩

theorem SameBounds.symm {op op' : Operator} {m n : Int128} (h : SameBounds op m op' n) :
  SameBounds op' n op m
  := h.imp (And.imp Eq.symm Eq.symm) And.symm

theorem Twins.sameBounds {op op' : Operator} {m n : Int128}
    (h : Twins (compare op m) (compare op' n)) :
  SameBounds op m op' n
  := by
  cases h <;> dsimp only [SameBounds, least, greatest] <;> omega

/-- Different comparisons that are alike make up one of the pairs. -/
theorem eq_or_twins {op op' : Operator} {m n : Int128} (h : SameBounds op m op' n) :
  compare op m = compare op' n ∨
    Twins (compare op m) (compare op' n) ∨ Twins (compare op' n) (compare op m)
  := by
  -- It is enough to look at the operators in one order.
  wlog horder : op.ctorIdx ≤ op'.ctorIdx generalizing op op' m n with hwlog
  · rw [eq_comm, or_comm (b := Twins _ _)]
    apply hwlog h.symm (Nat.le_of_not_le horder)
  have hm := And.intro (min_le m) (le_max m)
  have hn := And.intro (min_le n) (le_max n)
  have hbounds := h
  cases op <;> cases op' <;> dsimp only [SameBounds, least, greatest] at hbounds
  case eq.eq | lt.lt | le.le | gt.gt | ge.ge =>
    rw [(sameBounds_self_iff _ m n).mp h]
    apply Or.inl rfl
  case lt.eq | le.eq | le.lt | gt.eq | gt.lt | gt.le | ge.eq | ge.lt | ge.le | ge.gt =>
    apply absurd horder (by decide)
  -- What reaches down to the least integer is what reaches up to the greatest one only if both
  -- are everything or nothing, which a strict and a weak comparison never are together.
  case lt.ge | le.gt => omega
  all_goals right; left
  case eq.lt =>
    obtain rfl : m = .min := Int128.ext_val (by omega)
    apply Twins.leastLt (by omega)
  case eq.le =>
    obtain rfl : m = .min := Int128.ext_val (by omega)
    obtain rfl : n = .min := Int128.ext_val (by omega)
    apply Twins.leastLe
  case eq.gt =>
    obtain rfl : m = .max := Int128.ext_val (by omega)
    apply Twins.greatestGt (by omega)
  case eq.ge =>
    obtain rfl : m = .max := Int128.ext_val (by omega)
    obtain rfl : n = .max := Int128.ext_val (by omega)
    apply Twins.greatestGe
  case lt.le => apply Twins.below (by omega)
  case lt.gt =>
    obtain rfl : m = .min := Int128.ext_val (by omega)
    obtain rfl : n = .max := Int128.ext_val (by omega)
    apply Twins.nothing
  case le.ge =>
    obtain rfl : m = .max := Int128.ext_val (by omega)
    obtain rfl : n = .min := Int128.ext_val (by omega)
    apply Twins.everything
  case gt.ge => apply Twins.above (by omega)

/-! ### Matchers -/

theorem compare_matches_eq_iff (op op' : Operator) (m n : Int128) :
  (∀ observed, (compare op m).Matches observed = (compare op' n).Matches observed) ↔
    compare op m = compare op' n ∨
      Twins (compare op m) (compare op' n) ∨ Twins (compare op' n) (compare op m)
  := by
  constructor
  · intro h
    apply eq_or_twins
    rw [← matches_some_eq_iff]
    intro observed
    apply h
  · intro h
    have hbounds : SameBounds op m op' n := by
      rcases h with h | h | h
      · cases h
        apply (sameBounds_self_iff op m m).mpr rfl
      · apply h.sameBounds
      · apply h.sameBounds.symm
    rintro (_ | observed)
    · rfl
    · apply (matches_some_eq_iff op op' m n).mpr hbounds

/-- Absence tells its matcher from every comparison. -/
theorem absent_matches_none_ne (op : Operator) (n : Int128) :
  absent.Matches none ≠ (compare op n).Matches none
  := Bool.noConfusion

/-- Two matchers match the same observations exactly when they are equal or make up one of the
pairs. -/
theorem matches_eq_iff (a b : NumberMatcher) :
  (∀ observed, a.Matches observed = b.Matches observed) ↔ a = b ∨ Twins a b ∨ Twins b a
  := by
  cases a with
  | absent =>
    cases b with
    | absent => simp
    | compare op n =>
      apply iff_of_false
      · intro h
        apply absent_matches_none_ne op n (h none)
      · rintro (h | h | h) <;> cases h
  | compare op m =>
    cases b with
    | absent =>
      apply iff_of_false
      · intro h
        apply absent_matches_none_ne op m (h none).symm
      · rintro (h | h | h) <;> cases h
    | compare op' n => apply compare_matches_eq_iff

/-- Different matchers match the same observations only in the pairs.  No comparison is among
them with the matcher of absence, even if it accepts nothing, since absence tells the two apart;
and comparisons by the same operator are told apart by an integer. -/
theorem matches_alike_iff (a b : NumberMatcher) (op : Operator) (m n : Int128) :
  ((∀ observed, a.Matches observed = b.Matches observed) ↔ a = b ∨ Twins a b ∨ Twins b a) ∧
  (∃ observed, absent.Matches observed ≠ (compare op n).Matches observed) ∧
  ((∃ observed : Int128,
    (compare op m).Matches (some observed) ≠ (compare op n).Matches (some observed)) ↔ m ≠ n)
  := by
  refine ⟨matches_eq_iff a b, ⟨none, absent_matches_none_ne op n⟩, ?_⟩
  rw [← not_iff_not, not_exists, not_not, ← sameBounds_self_iff op, ← matches_some_eq_iff]
  simp only [not_not]

end MatchCriteria.NumberMatcher
