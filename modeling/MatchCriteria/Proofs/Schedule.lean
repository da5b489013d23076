import MatchCriteria.Proofs.Outcome

/-!
# Observations that threads share

Threads that share the observations come to them in an order that nothing fixes.  The order
decides one thing only: which observation is reported where several are no numbers, and it can
be any of these.  Whether there are outcomes, and what they are, is the same for every order.
-/

namespace MatchCriteria

/-- A schedule in which one of the observations is come to first. -/
def Schedule.first (text : String) : Schedule where
  order texts := if text ∈ texts then text :: texts.erase text else texts
  perm texts := by
    split
    · exact (List.perm_cons_erase ‹_›).symm
    · exact .refl _

/-- Some observations are refused with an error if one of them is. -/
def Refused (texts : List String) (e : MatcherError) : Prop :=
  ∃ text ∈ texts, NumberMatcher.observation text = .error e

/-- No two of some observations are refused with different errors. -/
def SoleRefusal (texts : List String) : Prop :=
  ∀ e e', Refused texts e → Refused texts e' → e = e'

theorem refused_order_iff (σ : Schedule) (texts : List String) (e : MatcherError) :
  Refused (σ.order texts) e ↔ Refused texts e
  := by
  simp only [Refused, (σ.perm texts).mem_iff]

/-- That is so where at most one of the observations is no number. -/
theorem soleRefusal_of_others {before after : List String}
    (h : ∀ other ∈ before ++ after, ∃ observed, NumberMatcher.observation other = .ok observed)
    (text : String) :
  SoleRefusal (before ++ text :: after)
  := by
  have hsole {t : String} {e : MatcherError} (ht : t ∈ before ++ text :: after)
      (he : NumberMatcher.observation t = .error e) : t = text := by
    rw [List.perm_middle.mem_iff, List.mem_cons] at ht
    apply ht.resolve_right
    intro hother
    obtain ⟨observed, hobserved⟩ := h t hother
    rw [hobserved] at he
    cases he
  rintro e e' ⟨t, ht, he⟩ ⟨t', ht', he'⟩
  obtain rfl := hsole ht he
  obtain rfl := hsole ht' he'
  rw [he] at he'
  cases he'
  rfl

namespace NumberMatcher

variable {m : NumberMatcher} {σ : Schedule} {texts : List String} {outcomes : List Outcome}
  {e : MatcherError}

theorem outcome_eq_error_iff {text : String} :
  m.outcome text = .error e ↔ observation text = .error e
  := by
  rw [outcome]
  cases observation text with
  | ok observed =>
    constructor
    · intro h
      cases h
    · intro h
      cases h
  | error e' => simp only [Except.map, Except.error.injEq]

/-- A single thread reports one of the observations that are refused. -/
theorem refused_of_evaluate (h : m.evaluate texts = .error e) :
  Refused texts e
  := by
  rw [evaluate_eq_mapM, mapM_eq_error_iff] at h
  obtain ⟨before, text, after, rfl, -, htext⟩ := h
  exact ⟨text, List.mem_append_right _ List.mem_cons_self, outcome_eq_error_iff.mp htext⟩

/-- With every schedule there are the outcomes that there are on a single thread. -/
theorem evaluateOn_eq_ok_iff :
  m.evaluateOn σ texts = .ok outcomes ↔ m.evaluate texts = .ok outcomes
  := by
  constructor
  · intro h
    obtain ⟨_, -, h⟩ := exists_of_bind_eq_ok h
    apply h
  · intro h
    have horder : ∀ text ∈ σ.order texts, ∃ observed, observation text = .ok observed := by
      intro text htext
      rw [(σ.perm texts).mem_iff] at htext
      apply forall_of_evaluate h text htext
    rw [evaluateOn, m.evaluate_of_forall horder]
    apply h

/-- The schedule of a single thread is what a single thread does. -/
theorem evaluateOn_oneThread (m : NumberMatcher) (texts : List String) :
  m.evaluateOn .oneThread texts = m.evaluate texts
  := by
  have horder : Schedule.oneThread.order texts = texts := rfl
  rw [evaluateOn, horder]
  cases m.evaluate texts <;> rfl

/-- With every schedule one of the observations is reported that are refused. -/
theorem refused_of_evaluateOn (h : m.evaluateOn σ texts = .error e) :
  Refused texts e
  := by
  rw [evaluateOn] at h
  cases hfirst : m.evaluate (σ.order texts) with
  | ok _ =>
    rw [hfirst] at h
    apply refused_of_evaluate h
  | error e' =>
    rw [hfirst] at h
    cases h
    rw [← refused_order_iff σ]
    apply refused_of_evaluate hfirst

/-- Every observation that is refused is reported with some schedule. -/
theorem exists_evaluateOn_eq_error_iff (m : NumberMatcher) (texts : List String)
    (e : MatcherError) :
  (∃ σ, m.evaluateOn σ texts = .error e) ↔ Refused texts e
  := by
  constructor
  · rintro ⟨σ, h⟩
    apply refused_of_evaluateOn h
  · rintro ⟨text, hmem, htext⟩
    use .first text
    have horder : (Schedule.first text).order texts = text :: texts.erase text := if_pos hmem
    rw [evaluateOn, horder, evaluate, htext]
    rfl

example : absent.evaluateOn (.first "yy") ["", "zz", "yy"] = .error (.invalidNumber "yy") := rfl

/-- Schedules make no difference where there is no more than one error to report. -/
theorem evaluateOn_of_soleRefusal (m : NumberMatcher) (hsole : SoleRefusal texts)
    (σ σ' : Schedule) :
  m.evaluateOn σ texts = m.evaluateOn σ' texts
  := by
  cases h : m.evaluateOn σ texts with
  | ok outcomes =>
    rw [evaluateOn_eq_ok_iff] at h
    rw [evaluateOn_eq_ok_iff.mpr h]
  | error e =>
    cases h' : m.evaluateOn σ' texts with
    | ok outcomes =>
      rw [evaluateOn_eq_ok_iff] at h'
      rw [evaluateOn_eq_ok_iff.mpr h'] at h
      cases h
    | error e' => rw [hsole e e' (refused_of_evaluateOn h) (refused_of_evaluateOn h')]

end NumberMatcher

namespace Matcher

variable {m : Matcher} {texts : List String} {outcomes : List Outcome}

/-- With every schedule there are the outcomes that there are with another one. -/
theorem evaluate_eq_ok_of_schedules {σ : Schedule} (h : m.evaluate σ texts = .ok outcomes)
    (σ' : Schedule) :
  m.evaluate σ' texts = .ok outcomes
  := by
  cases m with
  | text m => apply h
  | number m =>
    rw [evaluate, NumberMatcher.evaluateOn_eq_ok_iff] at h ⊢
    apply h

/-- Where there are outcomes, there is one for each observation. -/
theorem length_of_evaluate {σ : Schedule} (h : m.evaluate σ texts = .ok outcomes) :
  outcomes.length = texts.length
  := by
  cases m with
  | text m =>
    cases h
    apply List.length_map
  | number m => apply NumberMatcher.length_of_evaluate (NumberMatcher.evaluateOn_eq_ok_iff.mp h)

/-- A matcher is evaluated on observations that are numbers where they have to be. -/
theorem evaluate_of_forall (m : Matcher) (σ : Schedule) {texts : List String}
    (h : m.subcommand = .number →
      ∀ text ∈ texts, ∃ observed, NumberMatcher.observation text = .ok observed) :
  m.evaluate σ texts = .ok (outcomesOf m.accepts texts)
  := by
  cases m with
  | text m => rfl
  | number m =>
    apply NumberMatcher.evaluateOn_eq_ok_iff.mpr
    apply m.evaluate_of_forall (h rfl)

/-- An observation that should be a number, and is none, stops the evaluation. -/
theorem evaluate_of_mem (m : Matcher) (σ : Schedule) {texts : List String} {text : String}
    (hnumber : m.subcommand = .number) (hmem : text ∈ texts)
    (h : ∀ observed, NumberMatcher.observation text ≠ .ok observed) :
  ∃ e, m.evaluate σ texts = .error e
  := by
  cases m with
  | text m => cases hnumber
  | number m =>
    cases hevaluate : m.evaluateOn σ texts with
    | error e => exact ⟨e, hevaluate⟩
    | ok outcomes =>
      rw [NumberMatcher.evaluateOn_eq_ok_iff] at hevaluate
      obtain ⟨observed, hobserved⟩ := NumberMatcher.forall_of_evaluate hevaluate text hmem
      cases h observed hobserved

end Matcher

end MatchCriteria
