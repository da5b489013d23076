import MatchCriteria.Proofs.Json.Members
import MatchCriteria.Proofs.TextMatcher.Keyword

/-!
# The fields of structured text matchers

Of an object two fields count, and of these only what a reader of strings sees of them.  They are
looked at in a fixed order, so of several faults the first one decides: the value is no string, the
match type is no string, the match type is no keyword, and at last the value is no pattern.
-/

namespace MatchCriteria.TextMatcher

open Json (Value Held held)
open Unicode (lowercaseText)

/-- What is built from what is seen of the fields `value` and `matchType`, in this order. -/
inductive BuildsFrom : Held → Held → Except MatcherError TextMatcher → Prop where
  | valueMissing {meant : Held} :
      BuildsFrom .nothing meant (.error (.schema (.missing "value")))
  | valueNotString {kind : Json.Kind} {meant : Held} :
      BuildsFrom (.other kind) meant (.error (.schema (.notString "value" kind)))
  | typeNotString {v : String} {kind : Json.Kind} :
      BuildsFrom (.text v) (.other kind) (.error (.schema (.notString "matchType" kind)))
  | typeUnknown {v k : String}
      (hk : ∀ t : MatchType, lowercaseText k.toList ≠ t.keyword.toList) :
      BuildsFrom (.text v) (.text k) (.error (.unknownOperator k))
  | patternRefused {v k : String} {reason : Pattern.Error}
      (hk : lowercaseText k.toList = MatchType.pcre.keyword.toList)
      (hcompiles : Pattern.compile v = .error reason) :
      BuildsFrom (.text v) (.text k) (.error (.invalidPattern v reason))
  | pattern {v k : String} {program : Pattern.Expr}
      (hk : lowercaseText k.toList = MatchType.pcre.keyword.toList)
      (hcompiles : Pattern.compile v = .ok program) :
      BuildsFrom (.text v) (.text k) (.ok (regex v program hcompiles))
  | literal {v k : String}
      (hk : lowercaseText k.toList = MatchType.contains.keyword.toList) :
      BuildsFrom (.text v) (.text k) (.ok (literal v))
  | typeMissing {v : String} : BuildsFrom (.text v) .nothing (.ok (literal v))

/-! ### Objects -/

theorem ofPattern_eq_error {v : String} {reason : Pattern.Error}
    (h : Pattern.compile v = .error reason) :
  ofPattern v = .error (.invalidPattern v reason)
  := by
  unfold ofPattern
  split
  case h_1 h' => cases h.symm.trans h'
  case h_2 h' =>
    cases h.symm.trans h'
    rfl

/-- What is built from a value and a keyword is the value meant as the keyword says. -/
theorem buildsFrom_keyword (v k : String) :
  BuildsFrom (.text v) (.text k) (do ofValue (← MatchType.ofKeyword k) v)
  := by
  cases hk : MatchType.ofKeyword k with
  | error e =>
    obtain ⟨rfl, hne⟩ := (MatchType.ofKeyword_eq_error_iff k e).mp hk
    apply BuildsFrom.typeUnknown hne
  | ok t =>
    have hlower := (MatchType.ofKeyword_eq_ok_iff k t).mp hk
    simp only [bind, Except.bind]
    cases t with
    | contains => apply BuildsFrom.literal hlower
    | pcre =>
      rw [ofValue]
      cases hcompiles : Pattern.compile v with
      | error reason =>
        rw [ofPattern_eq_error hcompiles]
        apply BuildsFrom.patternRefused hlower hcompiles
      | ok program =>
        rw [ofPattern_eq_ok hcompiles]
        apply BuildsFrom.pattern hlower hcompiles

/-- An object is what is built from its fields. -/
theorem buildsFrom_ofMembers (members : List (String × Value)) :
  BuildsFrom (held members "value") (held members "matchType") (ofMembers members)
  := by
  simp only [ofMembers, ofFields, Json.stringMember_eq]
  cases held members "value" with
  | nothing => apply BuildsFrom.valueMissing
  | other kind => apply BuildsFrom.valueNotString
  | text v =>
    cases held members "matchType" with
    | nothing => apply BuildsFrom.typeMissing
    | other kind => apply BuildsFrom.typeNotString
    | text k => apply buildsFrom_keyword v k

/-- Nothing else is built from the fields of an object. -/
theorem ofMembers_of_buildsFrom {members : List (String × Value)}
    {r : Except MatcherError TextMatcher}
    (h : BuildsFrom (held members "value") (held members "matchType") r) :
  ofMembers members = r
  := by
  simp only [ofMembers, ofFields, Json.stringMember_eq]
  generalize held members "value" = value, held members "matchType" = meant at h ⊢
  cases h with
  | valueMissing => rfl
  | valueNotString => rfl
  | typeNotString => rfl
  | typeUnknown hk => simp only [bind, Except.bind, MatchType.ofKeyword_of_ne hk]
  | patternRefused hk hcompiles =>
    simp only [bind, Except.bind, ofKeyword_eq_ok hk, ofValue, ofPattern_eq_error hcompiles]
  | pattern hk hcompiles =>
    simp only [bind, Except.bind, ofKeyword_eq_ok hk, ofValue, ofPattern_eq_ok hcompiles]
  | literal hk => simp only [bind, Except.bind, ofKeyword_eq_ok hk, ofValue]
  | typeMissing => rfl

/-- Objects of which the same is seen in the two fields are the same matcher, or refused alike. -/
theorem ofMembers_congr {members members' : List (String × Value)}
    (hvalue : held members "value" = held members' "value")
    (hmeant : held members "matchType" = held members' "matchType") :
  ofMembers members = ofMembers members'
  := by
  apply ofMembers_of_buildsFrom
  rw [hvalue, hmeant]
  apply buildsFrom_ofMembers

/-! ### Values of any kind -/

theorem ofStructured_of_kind_ne {v : Value} (h : v.kind ≠ .object) :
  ofStructured v = .error (.schema (.notObject "value" v.kind))
  := by
  cases v with
  | object members => cases h rfl
  | _ => rfl

/-- No text and no object is refused for its kind. -/
theorem ofCompact_ne_unacceptedKind (text : String) (kind : Json.Kind) :
  ofCompact text ≠ .error (.unacceptedKind kind)
  := by
  intro h
  rw [ofCompact] at h
  split at h
  case h_1 source hsource =>
    rcases isPatternOf_ofPattern (String.ofList source) with ⟨reason, hr⟩ | ⟨m, hm, -, -⟩
    · rw [hr] at h
      cases h
    · rw [hm] at h
      cases h
  case h_2 => cases h

theorem ofMembers_ne_unacceptedKind (members : List (String × Value)) (kind : Json.Kind) :
  ofMembers members ≠ .error (.unacceptedKind kind)
  := by
  intro h
  have hbuilds := buildsFrom_ofMembers members
  rw [h] at hbuilds
  generalize held members "value" = value, held members "matchType" = meant at hbuilds
  cases hbuilds

/-- Exactly what is neither a string nor an object is refused for its kind. -/
theorem ofJson_eq_unacceptedKind_iff (v : Value) (kind : Json.Kind) :
  ofJson v = .error (.unacceptedKind kind) ↔
    kind = v.kind ∧ v.kind ≠ .string ∧ v.kind ≠ .object
  := by
  cases v with
  | string text => simp [ofJson, Value.kind, ofCompact_ne_unacceptedKind]
  | object members => simp [ofJson, Value.kind, ofMembers_ne_unacceptedKind]
  | _ => simp [ofJson, Value.kind, eq_comm]

/-- An object is built from its fields `value` and `matchType`, whichever of the three ways it is
read in.  Nothing else in it counts, nor the order of its members, nor whether a field is missing or
null.  What is no object is refused, as a JSON value unless it is a string. -/
theorem ofMembers_iff_buildsFrom (members members' : List (String × Value)) (v : Value) :
  (∀ r, ofMembers members = r ↔
    BuildsFrom (held members "value") (held members "matchType") r) ∧
  ofStructured (.object members) = ofMembers members ∧
  ofJson (.object members) = ofMembers members ∧
  (held members "value" = held members' "value" →
    held members "matchType" = held members' "matchType" →
    ofMembers members = ofMembers members') ∧
  (members.Perm members' → (members.map Prod.fst).Nodup →
    ofMembers members = ofMembers members') ∧
  (v.kind ≠ .object → ofStructured v = .error (.schema (.notObject "value" v.kind))) ∧
  (∀ kind, ofJson v = .error (.unacceptedKind kind) ↔
    kind = v.kind ∧ v.kind ≠ .string ∧ v.kind ≠ .object)
  := by
  refine ⟨?_, rfl, rfl, ofMembers_congr, ?_, ofStructured_of_kind_ne,
    ofJson_eq_unacceptedKind_iff v⟩
  · intro r
    constructor
    · rintro rfl
      apply buildsFrom_ofMembers
    · apply ofMembers_of_buildsFrom
  · intro hperm hnames
    apply ofMembers_congr
    · apply Json.held_perm hperm hnames
    · apply Json.held_perm hperm hnames

/-- An unknown match type hides that the value is no pattern, and a match type that is null counts
as missing, wherever it stands. -/
theorem ofMembers_iff_buildsFrom_of_faults :
  ofMembers [("matchType", .string "regex"), ("value", .string "(")]
      = .error (.unknownOperator "regex") ∧
    ofMembers [("value", .string "("), ("matchType", .null)]
      = ofMembers [("comment", .boolean true), ("value", .string "(")] ∧
    ofMembers [("value", .string "("), ("matchType", .null)]
      = ofMembers [("matchType", .null), ("value", .string "(")] ∧
    ofStructured (.array []) = .error (.schema (.notObject "value" .array))
  := by
  obtain ⟨hbuilds, -, -, -, -, -, -⟩ := ofMembers_iff_buildsFrom
    [("matchType", .string "regex"), ("value", .string "(")] [] .null
  obtain ⟨-, -, -, hfields, -, harray, -⟩ := ofMembers_iff_buildsFrom
    [("value", .string "("), ("matchType", .null)]
    [("comment", .boolean true), ("value", .string "(")] (.array [])
  obtain ⟨-, -, -, -, horder, -, -⟩ := ofMembers_iff_buildsFrom
    [("value", .string "("), ("matchType", .null)]
    [("matchType", .null), ("value", .string "(")] .null
  refine ⟨(hbuilds _).mpr (.typeUnknown ?_), hfields rfl rfl, horder ?_ ?_, harray ?_⟩
  · intro t
    cases t <;> decide
  · apply List.Perm.swap
  · decide
  · decide

end MatchCriteria.TextMatcher
