import MatchCriteria.Proofs.TextMatcher.Structured

/-!
# What the compact form of a text matcher tells

A matcher is known from its compact form, except that a pattern has the compact form of the literal
that is its source between slashes.  Such a literal is not read back from its compact form, and it
is the only kind of matcher that JSON holds as an object.
-/

namespace MatchCriteria.TextMatcher

/-- The matcher is a literal that stands between slashes. -/
def Ambiguous (m : TextMatcher) : Prop := ∃ source, m = literal ("/" ++ source ++ "/")

/-- A pattern, and the literal that is its source between slashes. -/
inductive Namesakes : TextMatcher → TextMatcher → Prop where
  | intro {source : String} {program : Pattern.Expr}
      (h : Pattern.compile source = .ok program) :
    Namesakes (regex source program h) (literal ("/" ++ source ++ "/"))

/-! ### Ambiguous matchers -/

theorem ambiguous_literal_iff (v : String) :
  Ambiguous (literal v) ↔ BetweenSlashes v
  := by
  constructor
  · rintro ⟨source, h⟩
    cases h
    exact ⟨source, rfl⟩
  · rintro ⟨source, rfl⟩
    exact ⟨source, rfl⟩

theorem not_ambiguous_regex {source : String} {program : Pattern.Expr}
    (h : Pattern.compile source = .ok program) :
  ¬ Ambiguous (regex source program h)
  := by
  rintro ⟨source', h'⟩
  cases h'

/-- The writer of JSON looks for slashes where they stand. -/
theorem isSlashed_iff_betweenSlashes (v : String) :
  isSlashed v = true ↔ BetweenSlashes v
  := by
  rw [isSlashed_iff, betweenSlashes_iff]

/-- An ambiguous matcher is written as an object. -/
theorem Ambiguous.encode_eq {m : TextMatcher} (h : Ambiguous m) :
  m.encode = .object [("value", .string m.value), ("matchType", .string "contains")]
  := by
  obtain ⟨source, rfl⟩ := h
  rw [encode, if_pos ((isSlashed_iff_betweenSlashes _).mpr ⟨source, rfl⟩)]
  rfl

/-- Any other matcher is written as its compact form. -/
theorem encode_of_not_ambiguous {m : TextMatcher} (h : ¬ Ambiguous m) :
  m.encode = .string m.render
  := by
  cases m with
  | literal v =>
    rw [ambiguous_literal_iff, ← isSlashed_iff_betweenSlashes] at h
    rw [encode, if_neg h, render]
  | regex source program hcompiles => rfl

theorem encode_eq_string_iff (m : TextMatcher) :
  m.encode = .string m.render ↔ ¬ Ambiguous m
  := by
  constructor
  · intro h hambiguous
    rw [hambiguous.encode_eq] at h
    cases h
  · apply encode_of_not_ambiguous

theorem encode_eq_object_iff (m : TextMatcher) :
  m.encode = .object [("value", .string m.value), ("matchType", .string "contains")] ↔
    Ambiguous m
  := by
  constructor
  · intro h
    by_contra hambiguous
    rw [encode_of_not_ambiguous hambiguous] at h
    cases h
  · apply Ambiguous.encode_eq

/-! ### Compact forms -/

/-- A matcher is read back from its compact form unless it is ambiguous. -/
theorem ofCompact_render_eq_ok_iff (m : TextMatcher) :
  ofCompact m.render = .ok m ↔ ¬ Ambiguous m
  := by
  cases m with
  | literal v => rw [ambiguous_literal_iff, render, ofCompact_eq_literal_iff]
  | regex source program h =>
    have hread := ofCompact_render_regex h
    have hambiguous := not_ambiguous_regex h
    exact ⟨fun _ => hambiguous, fun _ => hread⟩

/-- What an ambiguous matcher is read back as is a pattern, if it is a matcher at all. -/
theorem ofCompact_render_of_ambiguous {m : TextMatcher} {source : String}
    (h : m = literal ("/" ++ source ++ "/")) :
  (∃ reason, ofCompact m.render = .error (.invalidPattern source reason)) ∨
    ∃ m', ofCompact m.render = .ok m' ∧ m'.value = source ∧ m'.isRegex = true ∧ m' ≠ m
  := by
  subst h
  rw [render, ofCompact_between]
  rcases isPatternOf_ofPattern source with herror | ⟨m', hm', hvalue, hregex⟩
  · apply Or.inl herror
  · apply Or.inr
    use m', hm', hvalue, hregex
    rintro rfl
    cases hregex

/-- What is written between slashes is written so in one way. -/
theorem between_inj {s t : String} (h : "/" ++ s ++ "/" = "/" ++ t ++ "/") :
  s = t
  := by
  rw [← String.toList_inj, toList_between, toList_between, List.cons.injEq] at h
  apply String.toList_inj.mp (List.append_cancel_right h.2)

/-- A pattern has the compact form of a literal when that is its source between slashes. -/
theorem render_regex_eq_literal_iff {source : String} {program : Pattern.Expr}
    (h : Pattern.compile source = .ok program) (v : String) :
  (regex source program h).render = (literal v).render ↔
    Namesakes (regex source program h) (literal v)
  := by
  constructor
  · rintro ⟨⟩
    exact .intro h
  · rintro ⟨⟩
    rfl

/-- Two matchers have the same compact form only if they are the same, or namesakes. -/
theorem render_eq_render_iff (a b : TextMatcher) :
  a.render = b.render ↔ a = b ∨ Namesakes a b ∨ Namesakes b a
  := by
  constructor
  · intro h
    cases a with
    | literal v =>
      cases b with
      | literal w =>
        apply Or.inl
        apply congrArg literal h
      | regex t q hq => exact Or.inr (Or.inr ((render_regex_eq_literal_iff hq v).mp h.symm))
    | regex s p hp =>
      cases b with
      | literal w => exact Or.inr (Or.inl ((render_regex_eq_literal_iff hp w).mp h))
      | regex t q hq =>
        apply Or.inl
        rw [eq_iff]
        exact ⟨rfl, between_inj h⟩
  · rintro (rfl | ⟨⟨⟩⟩ | ⟨⟨⟩⟩)
    · rfl
    · rfl
    · rfl

/-- Matchers with the same compact form are the same, or a pattern and the literal that is its
source between slashes.  A matcher is read back from its compact form, and JSON holds it as the
string of its compact form, exactly when it is no literal that stands between slashes.  JSON holds
exactly such literals as objects, and what is read from the compact form of one is refused as a
pattern, or is a pattern and so another matcher. -/
theorem render_tells (a b : TextMatcher) :
  (a.render = b.render ↔ a = b ∨ Namesakes a b ∨ Namesakes b a) ∧
  (ofCompact a.render = .ok a ↔ ¬ Ambiguous a) ∧
  (a.encode = .string a.render ↔ ¬ Ambiguous a) ∧
  (a.encode = .object [("value", .string a.value), ("matchType", .string "contains")] ↔
    Ambiguous a) ∧
  ∀ source, a = literal ("/" ++ source ++ "/") →
    (∃ reason, ofCompact a.render = .error (.invalidPattern source reason)) ∨
    ∃ m, ofCompact a.render = .ok m ∧ m.value = source ∧ m.isRegex = true ∧ m ≠ a
  := by
  refine ⟨render_eq_render_iff a b, ofCompact_render_eq_ok_iff a, encode_eq_string_iff a,
    encode_eq_object_iff a, ?_⟩
  intro source h
  apply ofCompact_render_of_ambiguous h

/-- One slash is a literal like any other; with a text between two there is a pattern of the same
compact form. -/
theorem render_tells_of_slashes :
  ofCompact (literal "/").render = .ok (literal "/") ∧
    (∃ m : TextMatcher, m.isRegex = true ∧ m.render = (literal "/tmp/").render) ∧
    ∃ m, ofCompact (literal "/tmp/").render = .ok m ∧ m ≠ literal "/tmp/"
  := by
  obtain ⟨program, hcompiles⟩ : ∃ program, Pattern.compile "tmp" = .ok program := ⟨_, rfl⟩
  have hread : ofCompact "/tmp/" = .ok (regex "tmp" program hcompiles) :=
    ofCompact_render_regex hcompiles
  obtain ⟨-, hslash, -, -, -⟩ := render_tells (literal "/") (literal "/")
  obtain ⟨htmp, -, -, -, hbetween⟩ :=
    render_tells (literal "/tmp/") (regex "tmp" program hcompiles)
  refine ⟨hslash.mpr ?_, ?_, ?_⟩
  · rw [ambiguous_literal_iff, ← isSlashed_iff_betweenSlashes]
    decide
  · use regex "tmp" program hcompiles, rfl
    apply (htmp.mpr (Or.inr (Or.inr (.intro hcompiles)))).symm
  · rcases hbetween "tmp" rfl with ⟨reason, herror⟩ | ⟨m, hm, -, -, hne⟩
    · rw [render, hread] at herror
      cases herror
    · exact ⟨m, hm, hne⟩

end MatchCriteria.TextMatcher
