import MatchCriteria.Proofs.Json.LineFeeds
import MatchCriteria.Proofs.Report.Document

/-!
# What reports in JSON tell

A report in JSON is an object of four members, from which the matcher and the outcomes are known,
whatever characters they are made of.  Its lines are known from the number of outcomes alone, since
no line feed of an observation or of the matcher is one of the report.
-/

namespace MatchCriteria.Report

open Json (Integer Value pretty)

/-- How many line feeds a report in JSON has: those of its own members, and those of each outcome
and of the bracket behind the last one. -/
def lineFeeds (outcomes : Nat) : Nat := if outcomes = 0 then 6 else 4 * outcomes + 7

/-! ### Lines -/

/-- An outcome takes a line for each of its two members and one for its closing brace. -/
theorem count_lineFeed_outcomeValue (indent : Nat) (o : Outcome) :
  (pretty indent (outcomeValue o)).count '\n' = 3
  := by
  have hobservation : (pretty (indent + 1) (.string o.observation)).count '\n' = 0 :=
    Json.count_lineFeed_quote o.observation
  have hmatched : (pretty (indent + 1) (.boolean o.matched)).count '\n' = 0 :=
    Json.count_lineFeed_boolean o.matched
  rw [outcomeValue, Json.count_lineFeed_object indent (List.cons_ne_nil _ _), List.map_cons,
    List.map_singleton, List.sum_cons, List.sum_singleton, hobservation, hmatched]

/-- The outcomes start a line each, and are closed on one more. -/
theorem count_lineFeed_results (indent : Nat) (outcomes : List Outcome) :
  (pretty indent (.array (outcomes.map outcomeValue))).count '\n' + 6 = lineFeeds outcomes.length
  := by
  cases outcomes with
  | nil => rfl
  | cons o outcomes =>
    have hlines : (fun v => 1 + (pretty (indent + 1) v).count '\n') ∘ outcomeValue
        = Function.const Outcome 4 := by
      funext o
      rw [Function.comp_apply, count_lineFeed_outcomeValue]
      rfl
    have hne : (o :: outcomes).map outcomeValue ≠ [] := List.cons_ne_nil _ _
    rw [Json.count_lineFeed_array indent hne, List.map_map, hlines, List.map_const,
      List.sum_replicate_nat, lineFeeds, List.length_cons, if_neg (Nat.succ_ne_zero _)]
    omega

theorem count_lineFeed_ofNat {n : Nat} (h : n < 0x10000000000000000) (indent : Nat) :
  (pretty indent (Value.ofNat n)).count '\n' = 0
  := by
  obtain ⟨i, hi, -⟩ := ofNat_eq_integer h
  rw [hi]
  apply Json.count_lineFeed_toString

/-- The number of line feeds in a report depends on the number of outcomes only. -/
theorem count_lineFeed_json (matcher : String) {outcomes : List Outcome}
    (h : outcomes.length < 0x10000000000000000) :
  (json matcher outcomes).toList.count '\n' = lineFeeds outcomes.length
  := by
  have hmatcher : (pretty 1 (.string matcher)).count '\n' = 0 := Json.count_lineFeed_quote matcher
  have hmatched := count_lineFeed_ofNat (Nat.lt_of_le_of_lt (matchCount_le outcomes) h) 1
  have htotal := count_lineFeed_ofNat h 1
  have hend : "\n".toList.count '\n' = 1 := rfl
  rw [← count_lineFeed_results 1, json, String.toList_append, Json.renderPretty,
    String.toList_ofList, List.count_append, hend, document,
    Json.count_lineFeed_object 0 (List.cons_ne_nil _ _)]
  simp only [List.map_cons, List.map_nil, List.sum_cons, List.sum_nil, Nat.zero_add, hmatcher,
    hmatched, htotal]
  omega

/-- A report ends with a brace and one line feed. -/
theorem exists_json_eq (matcher : String) (outcomes : List Outcome) :
  ∃ body : String, json matcher outcomes = body ++ "\n" ∧ body.toList.getLast? = some '\x7d'
  := by
  use Json.renderPretty (document matcher outcomes)
  apply And.intro rfl
  rw [Json.renderPretty, String.toList_ofList, document, pretty, List.getLast?_concat]

/-! ### Contents -/

/-- The matcher and the outcomes are known from their report. -/
theorem json_eq_json_iff (matcher matcher' : String) {outcomes outcomes' : List Outcome}
    (h : outcomes.length < 0x10000000000000000) (h' : outcomes'.length < 0x10000000000000000) :
  json matcher outcomes = json matcher' outcomes' ↔ matcher = matcher' ∧ outcomes = outcomes'
  := by
  constructor
  · intro heq
    have hparse := parse?_json matcher h
    rw [heq, parse?_json matcher' h'] at hparse
    rw [Option.some.injEq, Summary.mk.injEq] at hparse
    obtain ⟨hmatcher, -, -, hresults⟩ := hparse
    exact ⟨hmatcher.symm, hresults.symm⟩
  · rintro ⟨rfl, rfl⟩
    rfl

/-- A report in JSON is an object with exactly the matcher, the number of matches, the number of
outcomes and the outcomes in order.  Reports of other matchers or outcomes are other texts.  A
report ends with one line feed, and has as many as its number of outcomes says.

The bound holds of everything that has an address of 64 bits. -/
theorem json_determines (matcher : String) {outcomes : List Outcome}
    (h : outcomes.length < 0x10000000000000000) :
  (∃ matched total : Integer,
    matched.val = outcomes.countP Outcome.matched ∧ total.val = outcomes.length ∧
    Json.read (json matcher outcomes) = .ok (.object [
      ("matcher", .string matcher), ("matched", .integer matched), ("total", .integer total),
      ("results", .array (outcomes.map fun o => .object [
        ("observation", .string o.observation), ("matched", .boolean o.matched)]))])) ∧
  (∀ matcher' outcomes', outcomes'.length < 0x10000000000000000 →
    (json matcher outcomes = json matcher' outcomes' ↔
      matcher = matcher' ∧ outcomes = outcomes')) ∧
  (∃ body : String, json matcher outcomes = body ++ "\n" ∧
    body.toList.getLast? = some '\x7d') ∧
  (json matcher outcomes).toList.count '\n' = lineFeeds outcomes.length
  := by
  refine ⟨?_, fun matcher' _ h' => json_eq_json_iff matcher matcher' h h',
    exists_json_eq matcher outcomes, count_lineFeed_json matcher h⟩
  obtain ⟨matched, hmatched, hval⟩ :=
    ofNat_eq_integer (Nat.lt_of_le_of_lt (matchCount_le outcomes) h)
  obtain ⟨total, htotal, hval'⟩ := ofNat_eq_integer h
  use matched, total, hval, hval'
  rw [read_json matcher h, document, hmatched, htotal]
  rfl

/-- A matcher with a quote, a control character and a line feed, an observation with a backslash, a
delete character and a character of four bytes, and an empty one. -/
theorem json_determines_of_controls :
  (∃ matched total : Integer, matched.val = 1 ∧ total.val = 2 ∧
    Json.read (json "\"\x00\n" [⟨"\\\x7f😀", true⟩, ⟨"", false⟩]) = .ok (.object [
      ("matcher", .string "\"\x00\n"), ("matched", .integer matched), ("total", .integer total),
      ("results", .array [
        .object [("observation", .string "\\\x7f😀"), ("matched", .boolean true)],
        .object [("observation", .string ""), ("matched", .boolean false)]])])) ∧
    json "\"\x00\n" [⟨"\\\x7f😀", true⟩, ⟨"", false⟩]
      ≠ json "\"\x00\n" [⟨"", false⟩, ⟨"\\\x7f😀", true⟩] ∧
    (json "\"\x00\n" [⟨"\\\x7f😀", true⟩, ⟨"", false⟩]).toList.count '\n' = 15
  := by
  have hlength : [Outcome.mk "\\\x7f😀" true, ⟨"", false⟩].length < 0x10000000000000000 := by
    decide
  obtain ⟨hread, hjson, -, hcount⟩ := json_determines "\"\x00\n" hlength
  refine ⟨hread, ?_, hcount⟩
  rw [Ne, hjson "\"\x00\n" [⟨"", false⟩, ⟨"\\\x7f😀", true⟩] (by decide)]
  decide

end MatchCriteria.Report
