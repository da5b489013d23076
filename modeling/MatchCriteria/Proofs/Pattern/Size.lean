import MatchCriteria.Pattern.Size
import Mathlib.Data.List.Basic

/-!
# The size of a literal

Literals one after the other are one literal in normal form.  An automaton has one state for each
of its bytes, and a few for where a match begins and ends.
-/

namespace MatchCriteria.Pattern.Expr

/-! ### The normal form -/

/-- A single branch in normal form is its choice. -/
theorem normalChoice_normalLiteral (bs : List UInt8) :
  normalChoice [normalLiteral bs] = normalLiteral bs
  := by
  unfold normalLiteral
  split <;> rfl

theorem normalSequence_normalLiterals (first second : List UInt8) :
  normalSequence [normalLiteral first, normalLiteral second] = normalLiteral (first ++ second)
  := by
  cases first with
  | nil =>
    cases second with
    | nil => rfl
    | cons b second => rfl
  | cons a first =>
    cases second with
    | nil =>
      rw [List.append_nil]
      rfl
    | cons b second => rfl

/-- Literals one after the other are one literal in normal form. -/
theorem normal_sequence_literals (parts : List (List UInt8)) :
  (sequence (parts.map literal)).normal = normalLiteral parts.flatten
  := by
  induction parts with
  | nil => rfl
  | cons part parts ih =>
    cases parts with
    | nil =>
      rw [List.flatten_singleton]
      apply normalChoice_normalLiteral
    | cons next parts =>
      have hsequence : sequence ((part :: next :: parts).map literal) =
          seq (literal part) (sequence ((next :: parts).map literal)) := rfl
      have hpart : normalChoice (literal part).normalBranches = normalLiteral part :=
        normalChoice_normalLiteral part
      rw [normal] at ih
      rw [hsequence, normal, normalBranches, hpart, ih, normalSequence_normalLiterals,
        normalChoice_normalLiteral]
      rfl

/-! ### The automata -/

/-- The bytes of the automaton that finds a literal of a number of bytes, forward: one state for
each byte, and two to skip what comes before it, one of which branches and one of which takes any
byte, and four for where the search and the match begin and end. -/
def literalSize (length : Nat) : Nat := stateSize * (length + 6) + branchSize * 2 + rangeSize

/-- States are added until they are too many. -/
theorem bytes_stepsWithin (n room : Nat) (b : Built) :
  (stepsWithin Plan.plain.build n b).bytes + room ≤ sizeLimit ↔
    b.bytes + stateSize * n + room ≤ sizeLimit
  := by
  induction n generalizing b with
  | zero => rfl
  | succ n ih =>
    rw [stepsWithin]
    split
    · omega
    · rw [ih]
      have hadd : (Plan.plain.build b).bytes = b.bytes + stateSize := rfl
      rw [hadd, Nat.mul_succ]
      omega

theorem fits_forward_iff (bs : List UInt8) :
  ((literal bs).programPlan .forward).fits = true ↔ literalSize bs.length ≤ sizeLimit
  := by
  have hbuild : (((literal bs).programPlan .forward).build ⟨0, 0⟩).bytes
      = (stepsWithin Plan.plain.build bs.length ⟨4, 144⟩).bytes + 64 := rfl
  rw [Plan.fits, decide_eq_true_iff, hbuild, bytes_stepsWithin]
  simp only [literalSize, stateSize, branchSize, rangeSize]
  omega

theorem fits_backward_iff (bs : List UInt8) :
  ((literal bs).programPlan .backward).fits = true ↔ literalSize bs.length ≤ sizeLimit + 64
  := by
  have hbuild : (((literal bs).programPlan .backward).build ⟨0, 0⟩).bytes
      = (stepsWithin Plan.plain.build bs.length ⟨3, 112⟩).bytes + 32 := rfl
  rw [Plan.fits, decide_eq_true_iff, hbuild, bytes_stepsWithin]
  simp only [literalSize, stateSize, branchSize, rangeSize]
  omega

/-- Literals one after the other are within the limit when the automaton that finds them forward
is, since the one for the other direction is smaller. -/
theorem fits_sequence_literals_iff (parts : List (List UInt8)) :
  (sequence (parts.map literal)).fits = true ↔ literalSize parts.flatten.length ≤ sizeLimit
  := by
  rw [fits, normal_sequence_literals]
  generalize parts.flatten = bs
  cases bs with
  | nil => decide
  | cons b bs =>
    have hnormal : normalLiteral (b :: bs) = literal (b :: bs) := rfl
    simp only [hnormal, Bool.and_eq_true, fits_forward_iff, fits_backward_iff]
    omega

end MatchCriteria.Pattern.Expr
