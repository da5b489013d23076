import MatchCriteria.Proofs.Number.Observation
import MatchCriteria.Proofs.Outcome

/-!
# Evaluating number matchers

A number matcher is evaluated on all of a list of observations or on none.  If each text is an
observation there is an outcome for each, in order; otherwise the first text that is none is
refused, on a single thread.
-/

namespace MatchCriteria.NumberMatcher

open Number (Int128 Operator)
open Text (Trimmed)

/-- An observed integer is to a value as an operator says. -/
def Relates : Operator → Int → Int → Prop
  | .eq, observed, value => observed = value
  | .lt, observed, value => observed < value
  | .le, observed, value => observed ≤ value
  | .gt, observed, value => observed > value
  | .ge, observed, value => observed ≥ value

/-- An observation is what a matcher is meant for: absence for the matcher without a value, and
for another one an integer that is to its value as its operator says. -/
inductive Satisfies : NumberMatcher → Option Int128 → Prop where
  | absent : Satisfies .absent none
  | compare {op : Operator} {value observed : Int128} (h : Relates op observed.val value.val) :
      Satisfies (.compare op value) (some observed)

/-- The outcome of a matcher on a text, which is kept as it is. -/
structure IsOutcome (m : NumberMatcher) (text : String) (o : Outcome) : Prop where
  observation : o.observation = text
  matched : ∃ observed, Observes text.toList observed ∧ (o.matched = true ↔ Satisfies m observed)

/-- What a matcher gives on some texts. -/
inductive Evaluates (m : NumberMatcher) (texts : List String) :
    Except MatcherError (List Outcome) → Prop where
  | outcomes {os : List Outcome} (h : List.Forall₂ (IsOutcome m) texts os) :
      Evaluates m texts (.ok os)
  | refused {before : List String} {text : String} {after : List String} {token : List Char}
      (htexts : texts = before ++ text :: after)
      (hbefore : ∀ earlier ∈ before, ∃ observed, Observes earlier.toList observed)
      (hrefused : ∀ observed, ¬ Observes text.toList observed)
      (htrim : Trimmed text.toList token) :
      Evaluates m texts (.error (.invalidNumber (String.ofList token)))

/-! ### One observation -/

theorem holds_iff (op : Operator) (observed value : Int) :
  op.holds observed value = true ↔ Relates op observed value
  := by
  cases op <;> apply decide_eq_true_iff

/-- A matcher matches the observations that it is meant for. -/
theorem matches_iff (m : NumberMatcher) (observed : Option Int128) :
  m.Matches observed = true ↔ Satisfies m observed
  := by
  cases m with
  | absent =>
    cases observed with
    | none => exact ⟨fun _ => .absent, fun _ => rfl⟩
    | some n => exact ⟨nofun, nofun⟩
  | compare op value =>
    cases observed with
    | none => exact ⟨nofun, nofun⟩
    | some n =>
      have hmatches : (compare op value).Matches (some n) = op.holds n.val value.val := rfl
      rw [hmatches, holds_iff]
      constructor
      · apply Satisfies.compare
      · intro h
        cases h with
        | compare h => apply h

theorem outcome_eq_ok_iff (m : NumberMatcher) (text : String) (o : Outcome) :
  m.outcome text = .ok o ↔ IsOutcome m text o
  := by
  constructor
  · intro h
    obtain ⟨observed, hobserved, rfl⟩ := exists_of_map_eq_ok h
    rw [observation_eq_ok_iff] at hobserved
    exact ⟨rfl, observed, hobserved, matches_iff m observed⟩
  · rintro ⟨rfl, observed, hobserved, hmatched⟩
    rw [← matches_iff, ← Bool.eq_iff_iff] at hmatched
    rw [outcome, (observation_eq_ok_iff _ _).mpr hobserved, Except.map, ← hmatched]

theorem exists_outcome_iff (m : NumberMatcher) (text : String) :
  (∃ o, m.outcome text = .ok o) ↔ ∃ observed, Observes text.toList observed
  := by
  constructor
  · rintro ⟨o, ho⟩
    obtain ⟨-, observed, hobserved, -⟩ := (outcome_eq_ok_iff m text o).mp ho
    exact ⟨observed, hobserved⟩
  · rintro ⟨observed, hobserved⟩
    rw [outcome, (observation_eq_ok_iff _ _).mpr hobserved]
    exact ⟨_, rfl⟩

/-- There is no outcome on a text that is no observation. -/
theorem outcome_of_refused (m : NumberMatcher) {text : String} {token : List Char}
    (htrim : Trimmed text.toList token) (h : ∀ observed, ¬ Observes text.toList observed) :
  m.outcome text = .error (.invalidNumber (String.ofList token))
  := by
  rw [outcome, observation_of_refused htrim h]
  rfl

/-! ### Lists of observations -/

theorem evaluates_evaluate (m : NumberMatcher) (texts : List String) :
  Evaluates m texts (m.evaluate texts)
  := by
  rw [evaluate_eq_mapM]
  cases h : texts.mapM m.outcome with
  | ok os =>
    apply Evaluates.outcomes
    apply (mapM_eq_ok_iff.mp h).imp
    intro text o
    apply (outcome_eq_ok_iff m text o).mp
  | error e =>
    obtain ⟨before, text, after, htexts, hbefore, htext⟩ := mapM_eq_error_iff.mp h
    have hrefused : ∀ observed, ¬ Observes text.toList observed := by
      rw [← not_exists, ← exists_outcome_iff m, htext]
      rintro ⟨o, ⟨⟩⟩
    have htrim := Text.trimmed_trim text.toList
    rw [outcome_of_refused m htrim hrefused] at htext
    cases htext
    apply Evaluates.refused htexts _ hrefused htrim
    intro earlier hearlier
    rw [← exists_outcome_iff m]
    apply hbefore earlier hearlier

/-- A matcher gives on a list of texts what its evaluation is, and nothing else: an outcome for
each text, or the refusal of the first one that is no observation. -/
theorem evaluate_eq_iff (m : NumberMatcher) (texts : List String)
    (r : Except MatcherError (List Outcome)) :
  (m.evaluate texts = r ↔ Evaluates m texts r) ∧
  ((∃ os, m.evaluate texts = .ok os) ↔
    ∀ text ∈ texts, ∃ observed, Observes text.toList observed)
  := by
  constructor
  · constructor
    · rintro rfl
      apply evaluates_evaluate
    · rw [evaluate_eq_mapM]
      rintro (h | ⟨rfl, hbefore, hrefused, htrim⟩)
      · apply mapM_eq_ok_iff.mpr
        apply h.imp
        intro text o
        apply (outcome_eq_ok_iff m text o).mpr
      · apply mapM_append_of_error _ (outcome_of_refused m htrim hrefused)
        intro earlier hearlier
        rw [exists_outcome_iff]
        apply hbefore earlier hearlier
  · simp only [← observation_eq_ok_iff]
    constructor
    · rintro ⟨os, h⟩
      apply forall_of_evaluate h
    · intro h
      exact ⟨_, m.evaluate_of_forall h⟩

example : absent.evaluate ["", " zz ", "0x"] = .error (.invalidNumber "zz") := rfl

end MatchCriteria.NumberMatcher
