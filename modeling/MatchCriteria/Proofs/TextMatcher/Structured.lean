import MatchCriteria.Proofs.TextMatcher.Encoding

/-!
# Compact and structured text matchers

An object describes a text matcher by a value and by how that is meant.  It is the same
matcher, or refused for the same reason, whether the object is read as members, as a value or
as JSON.  A value that is meant as a pattern is the matcher that is written compactly with the
value between slashes; one that is meant as a literal is the matcher that is written as the
value itself, unless the value stands between slashes too.
-/

namespace MatchCriteria.TextMatcher

open Json (Value member?)

/-- What the members of an object say about how its value is meant. -/
inductive MeantAs (members : List (String × Value)) : MatchType → Prop where
  | missing (h : member? members "matchType" = none) : MeantAs members .contains
  | null (h : member? members "matchType" = some .null) : MeantAs members .contains
  | keyword {k : String} {t : MatchType} (h : member? members "matchType" = some (.string k))
      (hk : Unicode.lowercaseText k.toList = t.keyword.toList) : MeantAs members t

/-- The members of an object hold a value, and say how that is meant. -/
structure Describes (members : List (String × Value)) (v : String) (t : MatchType) :
    Prop where
  value : member? members "value" = some (.string v)
  meantAs : MeantAs members t

/-- A matcher is the pattern of a source, or the source is refused. -/
def IsPatternOf (source : String) (r : Except MatcherError TextMatcher) : Prop :=
  (∃ reason, r = .error (.invalidPattern source reason)) ∨
    ∃ m, r = .ok m ∧ m.value = source ∧ m.isRegex = true

/-- A text stands between two slashes. -/
def BetweenSlashes (text : String) : Prop := ∃ source, text = "/" ++ source ++ "/"

/-! ### Patterns -/

theorem isPatternOf_ofPattern (source : String) :
  IsPatternOf source (ofPattern source)
  := by
  unfold ofPattern
  split
  · apply Or.inr
    exact ⟨_, rfl, rfl, rfl⟩
  · apply Or.inl
    exact ⟨_, rfl⟩

theorem toList_between (source : String) :
  ("/" ++ source ++ "/").toList = '/' :: (source.toList ++ ['/'])
  := by
  rw [String.toList_append, String.toList_append]
  rfl

/-- What is written between slashes is a pattern. -/
theorem ofCompact_between (source : String) :
  ofCompact ("/" ++ source ++ "/") = ofPattern source
  := by
  rw [ofCompact, (betweenSlashes?_eq_some_iff _ _).mpr (toList_between source)]
  simp only [String.ofList_toList]

/-- Slashes are found around a text where they are. -/
theorem betweenSlashes_iff (text : String) :
  BetweenSlashes text ↔ ∃ source, betweenSlashes? text.toList = some source
  := by
  constructor
  · rintro ⟨source, rfl⟩
    use source.toList
    rw [betweenSlashes?_eq_some_iff, toList_between]
  · rintro ⟨source, h⟩
    use String.ofList source
    rw [betweenSlashes?_eq_some_iff] at h
    rw [← String.toList_inj, toList_between, h, String.toList_ofList]

/-- Only what does not stand between slashes is written as a literal. -/
theorem ofCompact_eq_literal_iff (v : String) :
  ofCompact v = .ok (literal v) ↔ ¬ BetweenSlashes v
  := by
  constructor
  · rintro h ⟨source, rfl⟩
    rw [ofCompact_between] at h
    rcases isPatternOf_ofPattern source with ⟨reason, hr⟩ | ⟨m, hm, -, hregex⟩
    · rw [hr] at h
      cases h
    · rw [hm] at h
      cases h
      cases hregex
  · intro h
    rw [betweenSlashes_iff, ← Option.isSome_iff_exists, Option.not_isSome_iff_eq_none] at h
    rw [ofCompact, h]

/-! ### Objects -/

/-- A keyword is known by its lower case. -/
theorem ofKeyword_eq_ok {k : String} {t : MatchType}
    (h : Unicode.lowercaseText k.toList = t.keyword.toList) :
  MatchType.ofKeyword k = .ok t
  := by
  rw [MatchType.ofKeyword, h, String.ofList_toList]
  cases t with
  | contains => rfl
  | pcre => rfl

/-- An object is the matcher of the value that it holds, meant as it says. -/
theorem Describes.ofMembers_eq {members : List (String × Value)} {v : String} {t : MatchType}
    (h : Describes members v t) :
  ofMembers members = ofValue t v
  := by
  have hvalue : Json.stringMember members "value" true = .ok (some v) := by
    rw [Json.stringMember, h.value]
  rw [ofMembers, ofFields, hvalue]
  cases h.meantAs with
  | missing hnone =>
    rw [Json.stringMember, hnone]
    rfl
  | null hnull =>
    rw [Json.stringMember, hnull]
    rfl
  | keyword hkeyword hk =>
    rw [Json.stringMember, hkeyword]
    simp only [bind, Except.bind, ofKeyword_eq_ok hk]

/-- Objects and compact texts describe the same matchers.  An object whose value is meant as a
pattern is read as its value between slashes is, in each of the three ways to read an object:
the source is refused, or is the one of a pattern.  An object whose value is meant as a literal
is that literal, and is what the value itself is read as exactly when the value does not stand
between slashes.  A value between slashes is read as a pattern, and any other as a literal. -/
theorem structured_compact (v : String) :
  (∀ members, Describes members v .pcre →
    ofMembers members = ofCompact ("/" ++ v ++ "/") ∧
    ofStructured (.object members) = ofCompact ("/" ++ v ++ "/") ∧
    ofJson (.object members) = ofCompact ("/" ++ v ++ "/")) ∧
  IsPatternOf v (ofCompact ("/" ++ v ++ "/")) ∧
  (∀ members, Describes members v .contains →
    ofMembers members = .ok (literal v) ∧
    ofStructured (.object members) = .ok (literal v) ∧
    ofJson (.object members) = .ok (literal v) ∧
    (ofMembers members = ofCompact v ↔ ¬ BetweenSlashes v)) ∧
  (∀ source, v = "/" ++ source ++ "/" → IsPatternOf source (ofCompact v)) ∧
  (¬ BetweenSlashes v → ofCompact v = .ok (literal v))
  := by
  refine ⟨?_, ?_, ?_, ?_, (ofCompact_eq_literal_iff v).mpr⟩
  · intro members h
    have hmembers : ofMembers members = ofCompact ("/" ++ v ++ "/") := by
      rw [ofCompact_between, h.ofMembers_eq]
      rfl
    exact ⟨hmembers, hmembers, hmembers⟩
  · rw [ofCompact_between]
    apply isPatternOf_ofPattern
  · intro members h
    have hmembers : ofMembers members = .ok (literal v) := h.ofMembers_eq
    refine ⟨hmembers, hmembers, hmembers, ?_⟩
    rw [hmembers, eq_comm, ofCompact_eq_literal_iff]
  · rintro source rfl
    rw [ofCompact_between]
    apply isPatternOf_ofPattern

/-- One slash does not stand between slashes. -/
example : ofCompact "/" = .ok (literal "/") := rfl

/-- A value that stands between slashes, meant as a pattern by a keyword in capitals and as a
literal by none. -/
theorem structured_compact_of_slashes :
  ofJson (.object [("matchType", .string "PCRE"), ("value", .string "/tmp/")])
      = ofCompact "//tmp//" ∧
    ofJson (.object [("value", .string "/tmp/")]) = .ok (literal "/tmp/") ∧
    ofMembers [("value", .string "/tmp/")] ≠ ofCompact "/tmp/"
  := by
  obtain ⟨hpattern, -, hliteral, -, -⟩ := structured_compact "/tmp/"
  obtain ⟨-, -, hjson⟩ := hpattern [("matchType", .string "PCRE"), ("value", .string "/tmp/")]
    ⟨rfl, .keyword rfl rfl⟩
  obtain ⟨-, -, hjson', heq⟩ := hliteral [("value", .string "/tmp/")] ⟨rfl, .missing rfl⟩
  refine ⟨hjson, hjson', ?_⟩
  rw [Ne, heq, not_not]
  exact ⟨"tmp", rfl⟩

end MatchCriteria.TextMatcher
