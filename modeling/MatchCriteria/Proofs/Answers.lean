import MatchCriteria.Proofs.Stages

/-!
# Answers on several threads

The threads that share the observations of a command decide nothing about the answer but its
message: with every schedule the output and the exit code are the same.  The message is the same
too, unless there is a number matcher and several observations are refused, with different errors.
-/

namespace MatchCriteria

open CommandLine (Command)

/-- Two results are the same evaluation, or failures with the same exit code. -/
inductive Evaluation.Alike : Except Failure Evaluation → Except Failure Evaluation → Prop where
  | evaluation (e : Evaluation) : Alike (.ok e) (.ok e)
  | failure {f f' : Failure} (h : f.code = f'.code) : Alike (.error f) (.error f')

theorem Evaluation.Alike.eq_of_ok {e : Evaluation} {r : Except Failure Evaluation}
    (h : Alike (.ok e) r) :
  r = .ok e
  := by
  cases h
  rfl

theorem Evaluation.Alike.exists_of_error {f : Failure} {r : Except Failure Evaluation}
    (h : Alike (.error f) r) :
  ∃ f', r = .error f' ∧ f.code = f'.code
  := by
  cases h with
  | failure h => exact ⟨_, rfl, h⟩

namespace CommandLine.Command

variable {c c' : Command} {σ σ' : Schedule} {input input' : ByteArray}

/-! ### Evaluations -/

/-- Schedules decide neither whether a command fails, nor with which exit code. -/
theorem evaluate_alike (c : Command) (σ σ' : Schedule) (input : ByteArray) :
  Evaluation.Alike (c.evaluate σ input) (c.evaluate σ' input)
  := by
  rw [evaluate, evaluate]
  cases c.build with
  | error f => exact .failure rfl
  | ok m =>
    cases c.collect input with
    | error f => exact .failure rfl
    | ok texts =>
      simp only [bind, Except.bind]
      cases h : m.evaluate σ texts with
      | ok outcomes =>
        rw [Matcher.evaluate_eq_ok_of_schedules h σ']
        exact .evaluation _
      | error e =>
        cases h' : m.evaluate σ' texts with
        | ok outcomes =>
          rw [Matcher.evaluate_eq_ok_of_schedules h' σ] at h
          cases h
        | error e' => exact .failure rfl

/-- Where schedules lead to different evaluations, there is a number matcher, and there are
several errors to report. -/
theorem evaluate_of_soleRefusal
    (h : ∀ m texts, c.Describes (.number m) → c.Observes input texts → SoleRefusal texts)
    (σ σ' : Schedule) :
  c.evaluate σ input = c.evaluate σ' input
  := by
  rw [evaluate, evaluate]
  cases hm : c.build with
  | error f => rfl
  | ok m =>
    cases htexts : c.collect input with
    | error f => rfl
    | ok texts =>
      have hevaluate : m.evaluate σ texts = m.evaluate σ' texts := by
        cases m with
        | text m => rfl
        | number m =>
          have hsole := h m texts (describes_of_build hm) (observes_of_collect htexts)
          apply m.evaluateOn_of_soleRefusal hsole
      simp only [bind, Except.bind, hevaluate]

/-! ### Answers -/

/-- Evaluations that are alike have the same exit code, in every two environments. -/
theorem code_of_alike (h : Evaluation.Alike (c.evaluate σ input) (c'.evaluate σ' input'))
    (env env' : Environment) (time time' : String) :
  (c.answer σ env time input).code = (c'.answer σ' env' time' input').code
  := by
  rw [answer, answer]
  generalize c.evaluate σ input = r, c'.evaluate σ' input' = r' at h ⊢
  cases h with
  | evaluation e => rfl
  | failure hcode => exact hcode

/-- Evaluations that are alike have the same output, if they are displayed in the same way. -/
theorem output_of_alike (h : Evaluation.Alike (c.evaluate σ input) (c'.evaluate σ' input'))
    (hdisplay : c.display = c'.display) {env env' : Environment}
    (hcolour : c.display.output = .json ∨ c.colour env = c'.colour env') (time time' : String) :
  (c.answer σ env time input).output = (c'.answer σ' env' time' input').output
  := by
  rw [answer, answer, ← hdisplay]
  generalize c.evaluate σ input = r, c'.evaluate σ' input' = r' at h ⊢
  cases h with
  | evaluation e =>
    rcases hcolour with hjson | hcolour
    · simp only [Evaluation.report, hjson]
    · simp only [hcolour]
  | failure hcode => rfl

/-- Commands with the same evaluations and the same display have answers that differ in nothing
but the events, and where two schedules have a choice between errors in the message. -/
theorem answer_of_evaluate (h : ∀ σ, c.evaluate σ input = c'.evaluate σ input')
    (hdisplay : c.display = c'.display) (σ σ' : Schedule) (env : Environment)
    (time time' : String) :
  (c.answer σ env time input).output = (c'.answer σ' env time' input').output ∧
    (c.answer σ env time input).code = (c'.answer σ' env time' input').code ∧
    (env "SIGMATCH_LOG" = none →
      (σ = σ' ∨ ∀ m texts, c.Describes (.number m) → c.Observes input texts →
        SoleRefusal texts) →
      (c.answer σ env time input).errors = (c'.answer σ' env time' input').errors)
  := by
  have halike : Evaluation.Alike (c.evaluate σ input) (c'.evaluate σ' input') := by
    rw [← h]
    apply c.evaluate_alike
  have hcolour : c.colour env = c'.colour env := by
    rw [colour, colour, hdisplay]
  refine ⟨output_of_alike halike hdisplay (Or.inr hcolour) time time',
    code_of_alike halike env env time time', ?_⟩
  intro hlog hsole
  have hevaluate : c.evaluate σ input = c'.evaluate σ' input' := by
    rw [← h]
    rcases hsole with rfl | hsole
    · rfl
    · apply evaluate_of_soleRefusal hsole
  rw [answer, answer, hevaluate]
  cases c'.evaluate σ' input' with
  | error f => simp only [log_of_unset hlog]
  | ok e => simp only [log_of_unset hlog]

end CommandLine.Command

end MatchCriteria
