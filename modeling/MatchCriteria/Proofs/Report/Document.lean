import MatchCriteria.Proofs.Json.Layout
import MatchCriteria.Report.Document

/-!
# Reports in JSON are read back

A report in JSON says what the matcher was, how many outcomes there are, how many of them
matched, and what they are.  All of this is found in the text of the report again, as long as
the outcomes can be counted with 64 bits.
-/

namespace MatchCriteria.Report

open Json (Exact Integer Value depthLimit member?)

/-- What a report in JSON says. -/
structure Summary where
  /-- The matcher in its written form. -/
  matcher : String
  /-- How many outcomes matched. -/
  matched : Nat
  /-- How many outcomes there are. -/
  total : Nat
  /-- The outcomes in order. -/
  results : List Outcome
  deriving DecidableEq, Repr

/-- The number that a value is, if it is one without a sign. -/
def count? : Value → Option Nat
  | .integer n => if 0 ≤ n.val then some n.val.toNat else none
  | _ => none

/-- The outcome that a value describes. -/
def outcome? : Value → Option Outcome
  | .object members =>
    match member? members "observation", member? members "matched" with
    | some (.string observation), some (.boolean matched) => some ⟨observation, matched⟩
    | _, _ => none
  | _ => none

/-- What a value says that is a report. -/
def summary? : Value → Option Summary
  | .object members =>
    match member? members "matcher", member? members "results" with
    | some (.string matcher), some (.array results) => do
      let matched ← (member? members "matched").bind count?
      let total ← (member? members "total").bind count?
      return ⟨matcher, matched, total, ← results.mapM outcome?⟩
    | _, _ => none
  | _ => none

/-- What a text says that is a report. -/
def parse? (text : String) : Option Summary := (Json.read text).toOption.bind summary?

/-! ### Counts -/

theorem ofNat_eq_integer {n : Nat} (h : n < 0x10000000000000000) :
  ∃ i : Integer, Value.ofNat n = .integer i ∧ i.val = n
  := by
  have hrange : -0x8000000000000000 ≤ (n : Int) ∧ (n : Int) < 0x10000000000000000 := by
    omega
  refine ⟨⟨n, hrange.1, hrange.2⟩, ?_, rfl⟩
  rw [Value.ofNat, Integer.ofInt?, dif_pos hrange, Option.map_some, Option.getD_some]

theorem count?_ofNat {n : Nat} (h : n < 0x10000000000000000) :
  count? (Value.ofNat n) = some n
  := by
  obtain ⟨i, hi, hval⟩ := ofNat_eq_integer h
  rw [hi, count?, hval, if_pos (Int.natCast_nonneg n), Int.toNat_natCast]

theorem exact_ofNat {n : Nat} (h : n < 0x10000000000000000) (depth : Nat) :
  Exact depth (Value.ofNat n)
  := by
  obtain ⟨i, hi, -⟩ := ofNat_eq_integer h
  rw [hi]
  apply Exact.integer

/-! ### Documents -/

theorem matchCount_le (outcomes : List Outcome) :
  matchCount outcomes ≤ outcomes.length
  := List.countP_le_length

theorem exact_outcomeValue (depth : Nat) (o : Outcome) :
  Exact (depth + 1) (outcomeValue o)
  := by
  apply Exact.object
  intro m hm
  simp only [List.mem_cons, List.not_mem_nil, or_false] at hm
  rcases hm with rfl | rfl
  · apply Exact.string
  · apply Exact.boolean

/-- A document has no fractions, and nests three deep. -/
theorem exact_document (depth : Nat) (matcher : String) {outcomes : List Outcome}
    (h : outcomes.length < 0x10000000000000000) :
  Exact (depth + 3) (document matcher outcomes)
  := by
  have hmatched := exact_ofNat (Nat.lt_of_le_of_lt (matchCount_le outcomes) h) (depth + 2)
  have htotal := exact_ofNat h (depth + 2)
  have hresults : Exact (depth + 2) (.array (outcomes.map outcomeValue)) := by
    apply Exact.array
    rw [List.forall_mem_map]
    intro o _
    apply exact_outcomeValue
  apply Exact.object
  simp only [List.forall_mem_cons, List.not_mem_nil]
  exact ⟨.string matcher, hmatched, htotal, hresults, nofun⟩

/-- A report is the text of its document. -/
theorem read_json (matcher : String) {outcomes : List Outcome}
    (h : outcomes.length < 0x10000000000000000) :
  Json.read (json matcher outcomes) = .ok (document matcher outcomes)
  := Json.read_renderPretty (exact_document (depthLimit - 3) matcher h)

theorem mapM_outcome? (outcomes : List Outcome) :
  (outcomes.map outcomeValue).mapM outcome? = some outcomes
  := by
  induction outcomes with
  | nil => rfl
  | cons o outcomes ih =>
    have ho : outcome? (outcomeValue o) = some o := rfl
    rw [List.map_cons, List.mapM_cons, ho, ih]
    rfl

theorem summary?_object (matcher : String) {matched total : Value} {results : List Value}
    {m t : Nat} {outcomes : List Outcome} (hm : count? matched = some m)
    (ht : count? total = some t) (hresults : results.mapM outcome? = some outcomes) :
  summary? (.object [("matcher", .string matcher), ("matched", matched), ("total", total),
      ("results", .array results)])
    = some ⟨matcher, m, t, outcomes⟩
  := by
  have hmembers :
      summary? (.object [("matcher", .string matcher), ("matched", matched), ("total", total),
          ("results", .array results)])
        = (do
          let matched ← count? matched
          let total ← count? total
          return ⟨matcher, matched, total, ← results.mapM outcome?⟩) := rfl
  rw [hmembers, hm, ht, hresults]
  rfl

/-- What a report in JSON says is found in its text again. -/
theorem parse?_json (matcher : String) {outcomes : List Outcome}
    (h : outcomes.length < 0x10000000000000000) :
  parse? (json matcher outcomes)
    = some ⟨matcher, matchCount outcomes, outcomes.length, outcomes⟩
  := by
  have hmatched := Nat.lt_of_le_of_lt (matchCount_le outcomes) h
  have hread : (Json.read (json matcher outcomes)).toOption = some (document matcher outcomes) := by
    rw [read_json matcher h, Except.toOption]
  rw [parse?, hread, Option.bind_some]
  exact summary?_object matcher (count?_ofNat hmatched) (count?_ofNat h) (mapM_outcome? outcomes)

end MatchCriteria.Report
