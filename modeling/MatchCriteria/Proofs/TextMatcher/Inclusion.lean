import Mathlib.Data.List.Infix
import MatchCriteria.Proofs.TextMatcher.Encoding
import MatchCriteria.Proofs.TextMatcher.Literal

/-!
# What text matchers match

Matchers are compared by their values and by how these are meant, and not by what patterns compile
to.  Yet what a matcher matches follows from these two alone, so matchers that are equal match the
same.  One literal matches whatever another one matches exactly when it is a part of that one.
Hence different literals match different candidates, and only the empty literal matches all.
-/

namespace MatchCriteria.TextMatcher

/-- What a value matches that is meant in some way: the bytes among which its own stand together,
or those in which the pattern is found that it compiles to. -/
def MatchesAs (t : MatchType) (value : String) (candidate : ByteArray) : Prop :=
  match t with
  | .contains => Text.utf8 value.toList <:+: candidate.data.toList
  | .pcre =>
    ∃ program, Pattern.compile value = .ok program ∧ program.search candidate.data = true

/-! ### Values and what they match -/

/-- What is compiled in a matcher is what its value compiles to. -/
theorem matches_iff_matchesAs (m : TextMatcher) (candidate : ByteArray) :
  m.Matches candidate = true ↔ MatchesAs m.matchType m.value candidate
  := by
  cases m with
  | literal v => rw [Matches, isPart_iff, matchType, MatchesAs, value]
  | regex source program h =>
    rw [Matches, matchType, MatchesAs, value]
    constructor
    · intro hsearch
      exact ⟨program, h, hsearch⟩
    · rintro ⟨program', h', hsearch⟩
      rw [h] at h'
      cases h'
      apply hsearch

/-- Matchers are compared by their kinds and values. -/
theorem beq_iff (a b : TextMatcher) :
  (a == b) = true ↔ a.isRegex = b.isRegex ∧ a.value = b.value
  := by
  rw [beq_iff_eq, eq_iff]

theorem matchType_eq_iff (a b : TextMatcher) :
  a.matchType = b.matchType ↔ a.isRegex = b.isRegex
  := by
  cases a <;> cases b <;> simp [matchType, isRegex]

/-- Matchers of the same kind and value match the same. -/
theorem matches_of_beq {a b : TextMatcher} (h : (a == b) = true) (candidate : ByteArray) :
  a.Matches candidate = b.Matches candidate
  := by
  rw [beq_iff, ← matchType_eq_iff] at h
  obtain ⟨htype, hvalue⟩ := h
  rw [Bool.eq_iff_iff, matches_iff_matchesAs, matches_iff_matchesAs, htype, hvalue]

theorem equivalence_beq :
  Equivalence fun a b : TextMatcher => (a == b) = true
  := by
  simp only [beq_iff]
  constructor
  case refl =>
    intro a
    exact ⟨rfl, rfl⟩
  case symm =>
    rintro a b ⟨hkind, hvalue⟩
    exact ⟨hkind.symm, hvalue.symm⟩
  case trans =>
    rintro a b c ⟨hkind, hvalue⟩ ⟨hkind', hvalue'⟩
    exact ⟨hkind.trans hkind', hvalue.trans hvalue'⟩

/-! ### Literals -/

theorem matches_literal_utf8_iff (v : String) (candidate : ByteArray) :
  (literal v).Matches candidate = true ↔ Text.utf8 v.toList <:+: candidate.data.toList
  := matches_iff_matchesAs (literal v) candidate

/-- A text is a part of another when its characters stand together in it. -/
theorem exists_eq_append_iff (text part : String) :
  (∃ start rest : String, text = start ++ part ++ rest) ↔ part.toList <:+: text.toList
  := by
  constructor
  · rintro ⟨start, rest, rfl⟩
    use start.toList, rest.toList
    rw [String.toList_append, String.toList_append]
  · rintro ⟨start, rest, h⟩
    use String.ofList start, String.ofList rest
    rw [← String.toList_inj, String.toList_append, String.toList_append, String.toList_ofList,
      String.toList_ofList, h]

/-- A literal matches what another one matches exactly when it stands in that one.  The bytes of the
other literal are the least that it matches. -/
theorem matches_literal_imp_iff (v w : String) :
  (∀ candidate, (literal v).Matches candidate = true → (literal w).Matches candidate = true) ↔
    w.toList <:+: v.toList
  := by
  simp only [matches_literal_utf8_iff]
  rw [← Text.utf8_infix_iff]
  constructor
  · intro h
    have hself := h v.toUTF8
    rw [Text.toList_toUTF8] at hself
    apply hself List.infix_rfl
  · intro h candidate hv
    apply h.trans hv

/-- Literals that match the same are the same. -/
theorem matches_literal_eq_iff (v w : String) :
  (∀ candidate, (literal v).Matches candidate = (literal w).Matches candidate) ↔
    (literal v == literal w) = true
  := by
  constructor
  · intro h
    have hwv : w.toList <:+: v.toList := by
      rw [← matches_literal_imp_iff]
      intro candidate hv
      rwa [← h candidate]
    have hvw : v.toList <:+: w.toList := by
      rw [← matches_literal_imp_iff]
      intro candidate hw
      rwa [h candidate]
    rw [beq_iff]
    exact ⟨rfl, String.toList_inj.mp (List.infix_antisymm hvw hwv)⟩
  · apply matches_of_beq

/-- Only the empty literal is found where there are no bytes. -/
theorem matches_literal_empty_iff (v : String) :
  (literal v).Matches .empty = true ↔ v = ""
  := by
  rw [matches_literal_utf8_iff]
  have hempty : ByteArray.empty.data.toList = Text.utf8 [] := rfl
  rw [hempty, Text.utf8_infix_iff, List.infix_nil, String.toList_eq_nil_iff]

/-- Only the empty literal matches everything. -/
theorem forall_matches_literal_iff (v : String) :
  (∀ candidate, (literal v).Matches candidate = true) ↔ v = ""
  := by
  constructor
  · intro h
    rw [← matches_literal_empty_iff]
    apply h
  · rintro rfl candidate
    rw [matches_literal_utf8_iff]
    apply List.nil_infix

/-- Comparing matchers is an equivalence, which looks at their kinds and values only.  What a
matcher matches is what its value matches, meant as its kind says, so matchers that are equal match
the same.  A literal matches all that another one matches exactly when it is a part of that one.
Literals that match the same are equal, and only the empty one matches the empty candidate, or
every candidate. -/
theorem beq_reflects_matches (a b : TextMatcher) (v w : String) :
  (Equivalence fun a b : TextMatcher => (a == b) = true) ∧
  ((a == b) = true ↔ a.isRegex = b.isRegex ∧ a.value = b.value) ∧
  (∀ candidate, a.Matches candidate = true ↔ MatchesAs a.matchType a.value candidate) ∧
  ((a == b) = true → ∀ candidate, a.Matches candidate = b.Matches candidate) ∧
  ((∀ candidate, (literal v).Matches candidate = true → (literal w).Matches candidate = true) ↔
    ∃ start rest : String, v = start ++ w ++ rest) ∧
  ((∀ candidate, (literal v).Matches candidate = (literal w).Matches candidate) ↔
    (literal v == literal w) = true) ∧
  ((literal v).Matches .empty = true ↔ v = "") ∧
  ((∀ candidate, (literal v).Matches candidate = true) ↔ v = "")
  := by
  refine ⟨equivalence_beq, beq_iff a b, matches_iff_matchesAs a, matches_of_beq, ?_,
    matches_literal_eq_iff v w, matches_literal_empty_iff v, forall_matches_literal_iff v⟩
  rw [exists_eq_append_iff, matches_literal_imp_iff]

/-- A pattern is equal to itself however it was written, and a literal of two bytes is a part of
one that stands around it. -/
theorem beq_reflects_matches_of_accent :
  (∃ a b, ofCompact "/tmp/" = .ok a ∧
      ofJson (.object [("value", .string "tmp"), ("matchType", .string "PCRE")]) = .ok b ∧
      ∀ candidate, a.Matches candidate = b.Matches candidate) ∧
    (∀ candidate, (literal "née").Matches candidate = true →
      (literal "é").Matches candidate = true) ∧
    ¬ ∀ candidate, (literal "é").Matches candidate = (literal "e").Matches candidate
  := by
  obtain ⟨program, hcompiles⟩ : ∃ program, Pattern.compile "tmp" = .ok program := ⟨_, rfl⟩
  have hcompact : ofCompact "/tmp/" = .ok (regex "tmp" program hcompiles) :=
    ofCompact_render_regex hcompiles
  have hjson : ofJson (.object [("value", .string "tmp"), ("matchType", .string "PCRE")])
      = .ok (regex "tmp" program hcompiles) := ofPattern_eq_ok hcompiles
  obtain ⟨-, -, -, hmatches, hpart, -, -, -⟩ := beq_reflects_matches
    (regex "tmp" program hcompiles) (regex "tmp" program hcompiles) "née" "é"
  obtain ⟨-, -, -, -, -, hsame, -, -⟩ := beq_reflects_matches
    (literal "é") (literal "e") "é" "e"
  refine ⟨⟨_, _, hcompact, hjson, hmatches (by rw [beq_iff_eq])⟩, hpart.mpr ⟨"n", "e", rfl⟩, ?_⟩
  rw [hsame]
  decide

end MatchCriteria.TextMatcher
