import MatchCriteria.Proofs.Pattern.Plain
import MatchCriteria.Proofs.TextMatcher.Literal
import MatchCriteria.Proofs.TextMatcher.Structured

/-!
# Plain patterns and literals

A pattern in which every character stands for itself matches what the literal of the same
characters matches.
-/

namespace MatchCriteria.TextMatcher

open Pattern (Plain)

/-- A pattern between slashes is compiled or refused. -/
theorem ofCompact_between_eq_ok_iff (s : String) (m : TextMatcher) :
  ofCompact ("/" ++ s ++ "/") = .ok m ↔
    ∃ e, ∃ h : Pattern.compile s = .ok e, m = regex s e h
  := by
  rw [ofCompact_between]
  constructor
  · intro hm
    unfold ofPattern at hm
    split at hm
    · rename_i e h
      cases hm
      exact ⟨e, h, rfl⟩
    · cases hm
  · rintro ⟨e, h, rfl⟩
    apply ofPattern_eq_ok h

/-- A plain pattern that compiles matches the same bytes as the literal of its characters, and it
compiles when there is room for them. -/
theorem plain_pattern_alike {s : String} (h : Plain s.toList) :
  ofJson (.object [("value", .string s)]) = .ok (literal s) ∧
  (∀ m, ofCompact ("/" ++ s ++ "/") = .ok m →
    m.isRegex = true ∧
    ∀ candidate : ByteArray, m.Matches candidate = (literal s).Matches candidate) ∧
  ((∃ m, ofCompact ("/" ++ s ++ "/") = .ok m) ↔
    Pattern.Expr.literalSize s.utf8ByteSize ≤ Pattern.sizeLimit)
  := by
  refine ⟨rfl, ?_, ?_⟩
  · intro m hm
    obtain ⟨e, hcompiles, rfl⟩ := (ofCompact_between_eq_ok_iff s m).mp hm
    obtain ⟨-, he⟩ := (Pattern.compile_eq_ok_iff_of_plain h e).mp hcompiles
    refine ⟨rfl, ?_⟩
    intro candidate
    rw [Bool.eq_iff_iff, Matches, Matches, isPart_iff, he, Pattern.Expr.search_ofCharacters_iff]
  · constructor
    · rintro ⟨m, hm⟩
      obtain ⟨e, hcompiles, -⟩ := (ofCompact_between_eq_ok_iff s m).mp hm
      apply ((Pattern.compile_eq_ok_iff_of_plain h e).mp hcompiles).1
    · intro hroom
      have hcompiles := (Pattern.compile_eq_ok_iff_of_plain h _).mpr ⟨hroom, rfl⟩
      exact ⟨_, (ofCompact_between_eq_ok_iff s _).mpr ⟨_, hcompiles, rfl⟩⟩

/-- A pattern with a slash and a character of two bytes, behind a byte that belongs to no
character. -/
theorem plain_pattern_alike_of_accent :
  ∃ m, ofCompact "/é//" = .ok m ∧ m.Matches ⟨#[0xFF, 0xC3, 0xA9, 0x2F]⟩ = true
  := by
  obtain ⟨-, halike, hcompiles⟩ := plain_pattern_alike (s := "é/") (by decide)
  obtain ⟨m, hm⟩ := hcompiles.mpr (by decide)
  obtain ⟨-, hmatches⟩ := halike m hm
  refine ⟨m, hm, ?_⟩
  rw [hmatches]
  rfl

end MatchCriteria.TextMatcher
