import MatchCriteria.Proofs.Number.Grammar
import MatchCriteria.Proofs.Result

/-!
# Written observations

An observation is written as a token that may stand between blanks, and blanks alone are its
absence.  A matcher without an operator is written in the same way, so a text is the same integer
as a matcher and as an observation, or is refused as both.  They differ on blanks alone, which are
no matcher, and on operators, with which nothing is observed.
-/

namespace MatchCriteria.NumberMatcher

open Number (Int128)
open Number.Hex (Denotes)
open Text (Blank Cut Solid Trimmed)

/-- What a text is as an observation. -/
inductive Observes (text : List Char) : Option Int128 → Prop where
  | absent (h : Blank text) : Observes text none
  | present {token : List Char} {n : Int128} (htrim : Trimmed text token)
      (h : Denotes token n.val) : Observes text (some n)

/-! ### Reading observations -/

theorem observation_of_blank {text : String} (h : Blank text.toList) :
  observation text = .ok none
  := by
  rw [observation, (Text.trim_eq_iff _ _).mpr ((Text.trimmed_nil_iff _).mpr h)]

theorem observation_of_trimmed {text : String} {token : List Char}
    (htrim : Trimmed text.toList token) (hne : token ≠ []) :
  observation text = (integer token).map some
  := by
  rw [observation, (Text.trim_eq_iff _ _).mpr htrim]
  cases token with
  | nil => cases hne rfl
  | cons c token => rfl

/-- What is read is what a text is as an observation. -/
theorem observation_eq_ok_iff (text : String) (observed : Option Int128) :
  observation text = .ok observed ↔ Observes text.toList observed
  := by
  constructor
  · intro h
    have htrim := Text.trimmed_trim text.toList
    by_cases hne : Text.trim text.toList = []
    · rw [hne] at htrim
      have hblank := (Text.trimmed_nil_iff _).mp htrim
      rw [observation_of_blank hblank] at h
      cases h
      apply Observes.absent hblank
    · rw [observation_of_trimmed htrim hne] at h
      obtain ⟨n, hn, rfl⟩ := exists_of_map_eq_ok h
      apply Observes.present htrim ((integer_eq_ok_iff _ n).mp hn)
  · rintro (h | ⟨htrim, h⟩)
    · apply observation_of_blank h
    · rw [observation_of_trimmed htrim (ne_nil_of_denotes h), (integer_eq_ok_iff _ _).mpr h]
      rfl

/-- A text that is no observation is refused, without the blanks around it. -/
theorem observation_of_refused {text : String} {token : List Char}
    (htrim : Trimmed text.toList token) (h : ∀ observed, ¬ Observes text.toList observed) :
  observation text = .error (.invalidNumber (String.ofList token))
  := by
  have hne : token ≠ [] := by
    rintro rfl
    apply h none
    apply Observes.absent ((Text.trimmed_nil_iff _).mp htrim)
  have hrefused (n : Int128) : ¬ Denotes token n.val := by
    intro hn
    apply h (some n)
    apply Observes.present htrim hn
  rw [observation_of_trimmed htrim hne, integer_of_refused hrefused]
  rfl

/-- With inner blanks there is no observation. -/
theorem observation_of_not_solid {text : String} {body : List Char}
    (htrim : Trimmed text.toList body) (hbody : ¬ Solid body) :
  observation text = .error (.invalidNumber (String.ofList body))
  := by
  have hne : body ≠ [] := by
    rintro rfl
    apply hbody nofun
  have hrefused (n : Int128) : ¬ Denotes body n.val := by
    intro hn
    apply hbody (solid_of_denotes hn)
  rw [observation_of_trimmed htrim hne, integer_of_refused hrefused]
  rfl

theorem observation_eq_none_iff (text : String) :
  observation text = .ok none ↔ Blank text.toList
  := by
  rw [observation_eq_ok_iff]
  constructor
  · rintro ⟨h⟩
    apply h
  · apply Observes.absent

theorem observation_ofList_iff {token : List Char} (hsolid : Solid token) (n : Int128) :
  observation (String.ofList token) = .ok (some n) ↔ Denotes token n.val
  := by
  rw [observation_eq_ok_iff, String.toList_ofList]
  constructor
  · intro h
    cases h with
    | present htrim h => rwa [hsolid.trimmed.unique htrim]
  · apply Observes.present hsolid.trimmed

/-! ### Reading matchers -/

theorem ofText_eq_absent_iff (text : String) :
  ofText text = .ok absent ↔ text = ""
  := by
  constructor
  · intro h
    have hmeans := means_ofText text
    rw [h] at hmeans
    rw [← String.toList_eq_nil_iff]
    generalize text.toList = cs at hmeans
    cases hmeans with
    | absent => rfl
    | bare _ _ _ h => cases h
    | operator _ _ h => cases h
  · rintro rfl
    rfl

/-- Blanks alone are read as a token without anything in it. -/
theorem ofText_of_blank {text : String} (hne : text ≠ "") (h : Blank text.toList) :
  ofText text = .error (.invalidNumber "")
  := by
  rw [ofText_of_solid hne ((Text.trimmed_nil_iff _).mpr h) nofun]
  rfl

/-- A text with inner blanks is a matcher when they stand between an operator and an
observation. -/
theorem ofText_eq_ok_iff_of_not_solid {text : String} {body : List Char}
    (htrim : Trimmed text.toList body) (hbody : ¬ Solid body) (m : NumberMatcher) :
  ofText text = .ok m ↔
    ∃ op number n, Cut body op.token.toList number ∧ Solid number ∧
      observation (String.ofList number) = .ok (some n) ∧ m = compare op n
  := by
  constructor
  · intro h
    rw [Solid, ← Text.splitAtBlank?_eq_none_iff, ← Ne, Option.ne_none_iff_exists'] at hbody
    obtain ⟨⟨first, number⟩, hsplit⟩ := hbody
    have hcut := (Text.splitAtBlank?_eq_some_iff _ _ _).mp hsplit
    rw [ofText_of_cut htrim hcut] at h
    obtain ⟨op, hop, h⟩ := exists_of_bind_eq_ok h
    obtain ⟨n, hn, rfl⟩ := exists_of_map_eq_ok h
    rw [integer_eq_ok_iff] at hn
    obtain rfl := (operatorOf_eq_ok_iff _ op).mp hop
    have hsolid := solid_of_denotes hn
    exact ⟨op, number, n, hcut, hsolid, (observation_ofList_iff hsolid n).mpr hn, rfl⟩
  · rintro ⟨op, number, n, hcut, hsolid, hn, rfl⟩
    rw [observation_ofList_iff hsolid, ← integer_eq_ok_iff] at hn
    rw [ofText_of_cut htrim hcut, (operatorOf_eq_ok_iff _ op).mpr rfl, hn]
    rfl

/-! ### Matchers and observations -/

/-- How a text is read as a matcher and as an observation. -/
structure ReadAlike (text : String) : Prop where
  /-- The empty text is absence as both. -/
  empty : text = "" → ofText text = .ok absent ∧ observation text = .ok none
  /-- What stands between blanks and has none itself is the same integer as both, or it is
  refused as both. -/
  token : ∀ token, Trimmed text.toList token → token ≠ [] → Solid token →
    (∀ n, ofText text = .ok (ofInteger n) ↔ observation text = .ok (some n)) ∧
    ((∃ n, ofText text = .ok (ofInteger n)) ∨
      ofText text = .error (.invalidNumber (String.ofList token)) ∧
        observation text = .error (.invalidNumber (String.ofList token)))
  /-- With inner blanks it is no observation, and a matcher only where they stand between an
  operator and a token; then it is compared with what the token is as an observation. -/
  innerBlanks : ∀ body, Trimmed text.toList body → ¬ Solid body →
    observation text = .error (.invalidNumber (String.ofList body)) ∧
    ∀ m, ofText text = .ok m ↔
      ∃ op number n, Cut body op.token.toList number ∧ Solid number ∧
        observation (String.ofList number) = .ok (some n) ∧ m = compare op n
  /-- It is absence as one and not as the other exactly if there are only blanks, and some. -/
  absence : ¬ (ofText text = .ok absent ↔ observation text = .ok none) ↔
    text ≠ "" ∧ Blank text.toList
  /-- Then it is absence as an observation, and refused as a matcher. -/
  blanks : text ≠ "" → Blank text.toList →
    observation text = .ok none ∧ ofText text = .error (.invalidNumber "")
  /-- A matcher without an operator matches the observation that is written as it is. -/
  self : ∀ token m, Trimmed text.toList token → Solid token → ofText text = .ok m →
    ∃ observed, observation text = .ok observed ∧ m.Matches observed = true

theorem ne_of_trimmed {text : String} {token : List Char} (htrim : Trimmed text.toList token)
    (hne : token ≠ []) :
  text ≠ ""
  := by
  rintro rfl
  apply hne
  apply htrim.unique ((Text.trimmed_nil_iff _).mpr nofun)

/-- A token is the same integer as a matcher and as an observation, or is refused as both. -/
theorem token_alike {text : String} {token : List Char} (htrim : Trimmed text.toList token)
    (hne : token ≠ []) (hsolid : Solid token) :
  (∃ n, ofText text = .ok (ofInteger n) ∧ observation text = .ok (some n)) ∨
    ofText text = .error (.invalidNumber (String.ofList token)) ∧
      observation text = .error (.invalidNumber (String.ofList token))
  := by
  rw [ofText_of_solid (ne_of_trimmed htrim hne) htrim hsolid, observation_of_trimmed htrim hne]
  by_cases h : ∃ n : Int128, Denotes token n.val
  · obtain ⟨n, hn⟩ := h
    apply Or.inl
    use n
    rw [(integer_eq_ok_iff token n).mpr hn]
    exact ⟨rfl, rfl⟩
  · apply Or.inr
    rw [integer_of_refused (not_exists.mp h)]
    exact ⟨rfl, rfl⟩

theorem matches_ofInteger (n : Int128) :
  (ofInteger n).Matches (some n) = true
  := decide_eq_true rfl

/-- A matcher without an operator matches the observation that is written as it is. -/
theorem matches_self {text : String} {token : List Char} {m : NumberMatcher}
    (htrim : Trimmed text.toList token) (hsolid : Solid token) (h : ofText text = .ok m) :
  ∃ observed, observation text = .ok observed ∧ m.Matches observed = true
  := by
  by_cases hne : token = []
  · subst hne
    have hblank := (Text.trimmed_nil_iff _).mp htrim
    by_cases htext : text = ""
    · subst htext
      cases h
      exact ⟨none, rfl, rfl⟩
    · rw [ofText_of_blank htext hblank] at h
      cases h
  · rcases token_alike htrim hne hsolid with ⟨n, hn, hobserved⟩ | ⟨herror, -⟩
    · rw [hn] at h
      cases h
      exact ⟨some n, hobserved, matches_ofInteger n⟩
    · rw [herror] at h
      cases h

/-- Every text is read alike as a matcher and as an observation. -/
theorem readAlike_text (text : String) :
  ReadAlike text
  where
  empty := by
    rintro rfl
    exact ⟨rfl, rfl⟩
  token token htrim hne hsolid := by
    rcases token_alike htrim hne hsolid with ⟨n, hn, hobserved⟩ | ⟨herror, hobserved⟩
    · refine ⟨?_, Or.inl ⟨n, hn⟩⟩
      intro k
      rw [hn, hobserved]
      constructor
      · rintro ⟨⟩
        rfl
      · rintro ⟨⟩
        rfl
    · refine ⟨?_, Or.inr ⟨herror, hobserved⟩⟩
      intro k
      rw [herror, hobserved]
      exact ⟨nofun, nofun⟩
  innerBlanks body htrim hbody :=
    ⟨observation_of_not_solid htrim hbody, ofText_eq_ok_iff_of_not_solid htrim hbody⟩
  absence := by
    have hempty : text = "" → Blank text.toList := by
      rintro rfl
      nofun
    rw [ofText_eq_absent_iff, observation_eq_none_iff]
    tauto
  blanks hne h := ⟨observation_of_blank h, ofText_of_blank hne h⟩
  self token m htrim hsolid h := matches_self htrim hsolid h

/-- An operator, with which nothing is observed; blanks alone; and a number with a sign, a prefix
and blanks around it. -/
theorem readAlike_text_of_forms :
  observation "<= -1" = .error (.invalidNumber "<= -1") ∧
  ofText "\t" = .error (.invalidNumber "") ∧
  ∃ observed, observation " +0X1f " = .ok observed ∧
    (ofInteger ⟨31, by decide, by decide⟩).Matches observed = true
  := by
  obtain ⟨hobserved, -⟩ := (readAlike_text "<= -1").innerBlanks "<= -1".toList
    ((Text.trim_eq_iff _ _).mp rfl) (by decide)
  obtain ⟨-, hblank⟩ := (readAlike_text "\t").blanks (by decide) (by decide)
  refine ⟨hobserved, hblank, ?_⟩
  apply (readAlike_text " +0X1f ").self "+0X1f".toList _ ((Text.trim_eq_iff _ _).mp rfl) (by decide)
  rfl

end MatchCriteria.NumberMatcher
