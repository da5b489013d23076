import MatchCriteria.Proofs.TextMatcher.Structured
import MatchCriteria.Proofs.Unicode.AsciiCase

/-!
# Keywords of match types

A match type is known by the lower case of its keyword.  Lower case is taken of all characters,
but none beyond ASCII has a lower case that stands in a keyword, so a text is a keyword exactly
when it differs from one in nothing but the case of letters of ASCII.
-/

namespace MatchCriteria.MatchType

open Unicode (asciiSize lowercaseText lowercaseText_eq_iff OnlyFromAscii)

/-- Two texts differ in nothing but the case of letters of ASCII. -/
def SameButForCase (text text' : String) : Prop :=
  text.toList.map Char.toLower = text'.toList.map Char.toLower

instance (text text' : String) : Decidable (SameButForCase text text') :=
  inferInstanceAs (Decidable (text.toList.map Char.toLower = text'.toList.map Char.toLower))

/-! ### Lower case -/

/-- The match types are told apart by the lower case of the text. -/
theorem ofKeyword_eq_ok_iff (text : String) (t : MatchType) :
  ofKeyword text = .ok t ↔ lowercaseText text.toList = t.keyword.toList
  := by
  constructor
  · intro h
    rw [ofKeyword] at h
    simp only [← String.toList_inj, String.toList_ofList] at h
    split at h
    case isTrue hlower =>
      cases h
      apply hlower
    case isFalse =>
      split at h
      case isTrue hlower =>
        cases h
        apply hlower
      case isFalse => cases h
  · apply TextMatcher.ofKeyword_eq_ok

/-- A text whose lower case is no keyword is refused as it stands. -/
theorem ofKeyword_of_ne {text : String}
    (h : ∀ t : MatchType, lowercaseText text.toList ≠ t.keyword.toList) :
  ofKeyword text = .error (.unknownOperator text)
  := by
  simp only [ofKeyword, ← String.toList_inj, String.toList_ofList, if_neg (h contains),
    if_neg (h pcre)]

theorem ofKeyword_eq_error_iff (text : String) (e : MatcherError) :
  ofKeyword text = .error e ↔
    e = .unknownOperator text ∧ ∀ t : MatchType, lowercaseText text.toList ≠ t.keyword.toList
  := by
  constructor
  · intro h
    have hne : ∀ t : MatchType, lowercaseText text.toList ≠ t.keyword.toList := by
      intro t ht
      rw [(ofKeyword_eq_ok_iff text t).mpr ht] at h
      cases h
    rw [ofKeyword_of_ne hne] at h
    cases h
    exact ⟨rfl, hne⟩
  · rintro ⟨rfl, hne⟩
    apply ofKeyword_of_ne hne

/-! ### Letters of ASCII -/

theorem onlyFromAscii_of_mem_keyword (t : MatchType) :
  ∀ c ∈ t.keyword.toList, OnlyFromAscii c
  := by
  have row : t.keyword.toList.all (fun c => decide (c.toNat < asciiSize ∧ c ≠ 'k')) = true := by
    cases t <;> decide
  intro c hc
  apply of_decide_eq_true (List.all_eq_true.mp row c hc)

/-- A keyword is written in small letters. -/
theorem map_toLower_keyword (t : MatchType) :
  t.keyword.toList.map Char.toLower = t.keyword.toList
  := by
  cases t <;> rfl

/-- The lower case of a text is a keyword when the text differs from it in nothing but the case of
letters of ASCII. -/
theorem lowercaseText_eq_keyword_iff (text : String) (t : MatchType) :
  lowercaseText text.toList = t.keyword.toList ↔ SameButForCase text t.keyword
  := by
  rw [lowercaseText_eq_iff (onlyFromAscii_of_mem_keyword t), SameButForCase, map_toLower_keyword]

theorem isAlpha_of_mem_keyword (t : MatchType) :
  ∀ c ∈ t.keyword.toList, c.isAlpha = true
  := by
  have row : t.keyword.toList.all Char.isAlpha = true := by
    cases t <;> decide
  apply List.all_eq_true.mp row

theorem isAlpha_of_toLower {c : Char} (h : c.toLower.isAlpha = true) :
  c.isAlpha = true
  := by
  by_cases hupper : c.isUpper = true
  · have hletter : (c.isUpper || c.isLower) = true := by
      rw [hupper, Bool.true_or]
    apply hletter
  · have hsame : c.toLower = c := dif_neg fun hrange => hupper (decide_eq_true hrange)
    rwa [hsame] at h

/-- What differs from a keyword in nothing but case is made of letters of ASCII. -/
theorem SameButForCase.isAlpha {text : String} {t : MatchType}
    (h : SameButForCase text t.keyword) :
  ∀ c ∈ text.toList, c.isAlpha = true
  := by
  intro c hc
  rw [SameButForCase, map_toLower_keyword] at h
  apply isAlpha_of_toLower
  apply isAlpha_of_mem_keyword t
  rw [← h]
  apply List.mem_map_of_mem hc

/-- A text is the keyword of a match type exactly when it differs from that in nothing but the case
of letters of ASCII.  Any other text is refused and named as it stands, among them every text with
a character that is no letter of ASCII. -/
theorem ofKeyword_iff (text : String) :
  (∀ t, ofKeyword text = .ok t ↔ SameButForCase text t.keyword) ∧
  (∀ e, ofKeyword text = .error e ↔
    e = .unknownOperator text ∧ ∀ t : MatchType, ¬ SameButForCase text t.keyword) ∧
  ((∃ c ∈ text.toList, c.isAlpha = false) → ofKeyword text = .error (.unknownOperator text))
  := by
  have hrefused (e : MatcherError) : ofKeyword text = .error e ↔
      e = .unknownOperator text ∧ ∀ t : MatchType, ¬ SameButForCase text t.keyword := by
    simp only [ofKeyword_eq_error_iff, Ne, lowercaseText_eq_keyword_iff]
  refine ⟨?_, hrefused, ?_⟩
  · intro t
    rw [ofKeyword_eq_ok_iff, lowercaseText_eq_keyword_iff]
  · rintro ⟨c, hc, hother⟩
    rw [hrefused]
    refine ⟨rfl, fun t h => ?_⟩
    rw [h.isAlpha c hc] at hother
    cases hother

/-- Capitals are read, and neither a capital I with a dot, nor a letter of full width, nor a blank
behind the keyword. -/
theorem ofKeyword_iff_of_lookalikes :
  ofKeyword "ConTAINS" = .ok contains ∧
    ofKeyword "CONTA\u0130NS" = .error (.unknownOperator "CONTA\u0130NS") ∧
    ofKeyword "\uFF30cre" = .error (.unknownOperator "\uFF30cre") ∧
    ofKeyword "pcre " = .error (.unknownOperator "pcre ")
  := by
  obtain ⟨hcapitals, -, -⟩ := ofKeyword_iff "ConTAINS"
  obtain ⟨-, -, hdot⟩ := ofKeyword_iff "CONTA\u0130NS"
  obtain ⟨-, -, hwide⟩ := ofKeyword_iff "\uFF30cre"
  obtain ⟨-, -, hblank⟩ := ofKeyword_iff "pcre "
  refine ⟨(hcapitals contains).mpr (by decide), hdot ?_, hwide ?_, hblank ?_⟩
  · exact ⟨'\u0130', by decide, rfl⟩
  · exact ⟨'\uFF30', by decide, rfl⟩
  · exact ⟨' ', by decide, rfl⟩

end MatchCriteria.MatchType
