import MatchCriteria.Proofs.Json.RoundTrip
import MatchCriteria.TextMatcher

/-!
# Text matchers in JSON

A literal that the reader would take for a pattern is exactly one that the writer writes as an
object.  Hence every text matcher is read back from its JSON value, and every list of them from
its JSON text.
-/

namespace MatchCriteria.TextMatcher

open Json (Exact readList readList_render)

/-! ### Slashes -/

/-- The slashes are two different ones. -/
theorem betweenSlashes?_eq_some_iff (text source : List Char) :
  betweenSlashes? text = some source ↔ text = '/' :: (source ++ ['/'])
  := by
  constructor
  · intro h
    unfold betweenSlashes? at h
    split at h
    · rename_i rest
      split at h
      · rename_i hlast
        cases h
        rw [List.dropLast_append_getLast? _ hlast]
      · cases h
    · cases h
  · rintro rfl
    rw [betweenSlashes?, List.getLast?_concat, if_pos rfl, List.dropLast_concat]

/-- A text that looks like the compact form of a pattern is the compact form of one. -/
theorem isSlashed_iff (text : String) :
  isSlashed text = true ↔ ∃ source, betweenSlashes? text.toList = some source
  := by
  rw [isSlashed, Bool.and_eq_true, Bool.and_eq_true, decide_eq_true_iff, decide_eq_true_iff,
    decide_eq_true_iff]
  constructor
  · rintro ⟨⟨hsize, hhead⟩, hlast⟩
    obtain ⟨rest, hrest⟩ := List.head?_eq_some_iff.mp hhead
    rw [hrest] at hlast
    cases rest with
    | nil =>
      -- One slash takes one byte.
      rw [← text.ofList_toList, hrest] at hsize
      absurd hsize
      decide
    | cons c rest =>
      use (c :: rest).dropLast
      rw [List.getLast?_cons_cons] at hlast
      rw [hrest, betweenSlashes?, if_pos hlast]
  · rintro ⟨source, h⟩
    rw [betweenSlashes?_eq_some_iff] at h
    have htext : text = "/" ++ String.ofList source ++ "/" := by
      rw [← text.ofList_toList, h, ← List.cons_append, String.ofList_append, String.ofList_cons]
      rfl
    constructor
    · constructor
      · rw [htext, String.utf8ByteSize_append, String.utf8ByteSize_append]
        have hslash : "/".utf8ByteSize = 1 := rfl
        omega
      · rw [h, List.head?_cons]
    · rw [h, ← List.cons_append, List.getLast?_concat]

/-! ### One matcher -/

theorem toList_render_regex {source : String} {program : Pattern.Expr}
    (h : Pattern.compile source = .ok program) :
  (regex source program h).render.toList = '/' :: (source.toList ++ ['/'])
  := by
  rw [render, String.toList_append, String.toList_append]
  rfl

theorem ofPattern_eq_ok {source : String} {program : Pattern.Expr}
    (h : Pattern.compile source = .ok program) :
  ofPattern source = .ok (regex source program h)
  := by
  unfold ofPattern
  split
  · rename_i program' h'
    have hprogram : program' = program := Except.ok.inj (h'.symm.trans h)
    subst hprogram
    rfl
  · rename_i h'
    cases h'.symm.trans h

/-- A pattern is read back from its compact form. -/
theorem ofCompact_render_regex {source : String} {program : Pattern.Expr}
    (h : Pattern.compile source = .ok program) :
  ofCompact (regex source program h).render = .ok (regex source program h)
  := by
  rw [ofCompact, toList_render_regex h, (betweenSlashes?_eq_some_iff _ _).mpr rfl]
  simp only [String.ofList_toList]
  apply ofPattern_eq_ok h

/-- A literal is read back from an object with its value and the keyword of literals. -/
theorem ofMembers_contains (v : String) :
  ofMembers [("value", .string v), ("matchType", .string MatchType.contains.keyword)]
    = .ok (literal v)
  := by
  rfl

/-- Every matcher is read back from its JSON value. -/
theorem ofJson_encode (m : TextMatcher) :
  ofJson m.encode = .ok m
  := by
  cases m with
  | literal v =>
    rw [encode]
    cases hslashed : isSlashed v with
    | true => apply ofMembers_contains v
    | false =>
      have hnone : betweenSlashes? v.toList = none := by
        rw [← Option.not_isSome_iff_eq_none, Option.isSome_iff_exists, ← isSlashed_iff, hslashed]
        apply Bool.false_ne_true
      rw [if_neg Bool.false_ne_true, ofJson, ofCompact, hnone]
  | regex source program h => apply ofCompact_render_regex h

/-! ### Lists of matchers -/

theorem exact_encode (m : TextMatcher) (depth : Nat) :
  Exact (depth + 1) m.encode
  := by
  cases m with
  | literal v =>
    rw [encode]
    split
    · apply Exact.object
      intro m hm
      rw [List.mem_cons, List.mem_singleton] at hm
      rcases hm with rfl | rfl
      · apply Exact.string
      · apply Exact.string
    · apply Exact.string
  | regex source program h => apply Exact.string

/-- Every list of text matchers is read back from its JSON text: each literal as a literal
with the same value, and each pattern as a pattern with the same source, so that each matcher
matches what it matched. -/
theorem readList_render_encode (ms : List TextMatcher) :
  readList (fun v => (ofJson v).mapError MatcherError.message)
      (Json.render (.array (ms.map encode)))
    = .ok ms
  := by
  apply readList_render
  · intro m
    apply exact_encode
  · intro m
    rw [ofJson_encode]
    rfl

end MatchCriteria.TextMatcher
