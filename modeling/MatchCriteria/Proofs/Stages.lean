import MatchCriteria.Proofs.Schedule
import MatchCriteria.Proofs.Text.Utf8
import MatchCriteria.Run

/-!
# The stages of a run

A command passes through four stages: a matcher that should be JSON is JSON; the matcher can
be built; the lines of an input that is observed are texts; and what a number matcher observes
are numbers.  The first stage that fails decides what the run leaves behind, and if none fails
then the observations that the matcher accepts do.
-/

namespace MatchCriteria

open CommandLine (Argument Command Subcommand)

/-- The stages of a command. -/
inductive Stage where
  /-- The matcher, where it should be JSON, is JSON. -/
  | json
  /-- The matcher can be built. -/
  | matcher
  /-- The input, where it is observed, consists of lines of text. -/
  | input
  /-- The observations, where they should be numbers, are numbers. -/
  | observations
  deriving DecidableEq, Repr

namespace Stage

/-- The place of a stage among the others. -/
def rank : Stage → Nat
  | json => 0
  | matcher => 1
  | input => 2
  | observations => 3

/-- The exit code when a stage fails. -/
def code : Stage → UInt8
  | json => 2
  | matcher => 2
  | input => 3
  | observations => 2

end Stage

namespace CommandLine.Command

/-- The matcher that a command describes, as a JSON value or compactly. -/
inductive Describes (c : Command) (m : Matcher) : Prop where
  | json {v : Json.Value} (hjson : c.json = true) (hread : Json.read c.matcher = .ok v)
      (hm : Matcher.ofJson c.subcommand v = .ok m) : Describes c m
  | compact (hjson : c.json = false) (hm : Matcher.ofText c.subcommand c.matcher = .ok m) :
      Describes c m

/-- The observations of a command: those that it gives, or the lines of the input if it gives
none. -/
inductive Observes (c : Command) (input : ByteArray) : List String → Prop where
  | given (h : c.observations ≠ []) : Observes c input c.observations
  | lines {text : String} (h : c.observations = []) (hinput : text.toUTF8 = input) :
      Observes c input ((Text.lines text.toList).map String.ofList)

/-- A command passes a stage. -/
def Passes (c : Command) (input : ByteArray) : Stage → Prop
  | .json => c.json = true → ∃ v, Json.read c.matcher = .ok v
  | .matcher => ∃ m, c.Describes m
  | .input => c.observations = [] → ∀ line ∈ input.data.toList.splitOn 10, Text.IsText line
  | .observations =>
    c.subcommand = .number → ∀ texts, c.Observes input texts →
      ∀ text ∈ texts, ∃ observed, NumberMatcher.observation text = .ok observed

/-- A command fails in a stage, and in no stage before it. -/
def FailsFirst (c : Command) (input : ByteArray) (s : Stage) : Prop :=
  ¬ c.Passes input s ∧ ∀ before : Stage, before.rank < s.rank → c.Passes input before

variable {c : Command} {input : ByteArray}

/-! ### The matcher -/

theorem build_of_json {v : Json.Value} (hjson : c.json = true)
    (hread : Json.read c.matcher = .ok v) :
  c.build = (Matcher.ofJson c.subcommand v).mapError .refused
  := by
  rw [build, if_pos hjson, jsonMatcher, hread]
  rfl

theorem build_of_compact (hjson : c.json = false) :
  c.build = (Matcher.ofText c.subcommand c.matcher).mapError .refused
  := by
  rw [build, hjson]
  rfl

/-- A matcher that should be JSON, and is not, is not built. -/
theorem build_of_not_json (h : ¬ c.Passes input .json) :
  ∃ e, c.build = .error (.notJson e)
  := by
  obtain ⟨hjson, hread⟩ := Classical.not_imp.mp h
  cases hvalue : Json.read c.matcher with
  | ok v => cases hread ⟨v, hvalue⟩
  | error e =>
    use e
    rw [build, if_pos hjson, jsonMatcher, hvalue]
    rfl

/-- The matcher is built that the command describes. -/
theorem build_of_describes {m : Matcher} (h : c.Describes m) :
  c.build = .ok m
  := by
  cases h with
  | json hjson hread hm =>
    rw [build_of_json hjson hread, hm]
    rfl
  | compact hjson hm =>
    rw [build_of_compact hjson, hm]
    rfl

/-- Only the matcher is built that the command describes. -/
theorem describes_of_build {m : Matcher} (h : c.build = .ok m) :
  c.Describes m
  := by
  cases hjson : c.json with
  | true =>
    rw [build, if_pos hjson, jsonMatcher] at h
    obtain ⟨v, hv, h⟩ := exists_of_bind_eq_ok h
    apply Describes.json hjson (eq_ok_of_mapError hv) (eq_ok_of_mapError h)
  | false =>
    rw [build_of_compact hjson] at h
    apply Describes.compact hjson (eq_ok_of_mapError h)

/-- A matcher that is JSON where it should be, and that the command does not describe, is
refused. -/
theorem build_of_not_described (h : c.Passes input .json) (hm : ¬ c.Passes input .matcher) :
  ∃ e, c.build = .error (.refused e)
  := by
  cases hjson : c.json with
  | true =>
    obtain ⟨v, hread⟩ := h hjson
    rw [build_of_json hjson hread]
    cases hr : Matcher.ofJson c.subcommand v with
    | ok m => cases hm ⟨m, .json hjson hread hr⟩
    | error e => exact ⟨e, rfl⟩
  | false =>
    rw [build_of_compact hjson]
    cases hr : Matcher.ofText c.subcommand c.matcher with
    | ok m => cases hm ⟨m, .compact hjson hr⟩
    | error e => exact ⟨e, rfl⟩

theorem subcommand_of_ofJson {s : Subcommand} {v : Json.Value} {m : Matcher}
    (h : Matcher.ofJson s v = .ok m) :
  m.subcommand = s
  := by
  cases s with
  | text =>
    obtain ⟨_, -, rfl⟩ := exists_of_map_eq_ok h
    rfl
  | number =>
    obtain ⟨_, -, rfl⟩ := exists_of_map_eq_ok h
    rfl

theorem subcommand_of_ofText {s : Subcommand} {text : String} {m : Matcher}
    (h : Matcher.ofText s text = .ok m) :
  m.subcommand = s
  := by
  cases s with
  | text =>
    obtain ⟨_, -, rfl⟩ := exists_of_map_eq_ok h
    rfl
  | number =>
    obtain ⟨_, -, rfl⟩ := exists_of_map_eq_ok h
    rfl

/-- A command describes a matcher of its own kind. -/
theorem Describes.subcommand_eq {m : Matcher} (h : c.Describes m) :
  m.subcommand = c.subcommand
  := by
  cases h with
  | json _ _ hm => apply subcommand_of_ofJson hm
  | compact _ hm => apply subcommand_of_ofText hm

/-! ### The observations -/

/-- What a command observes is collected. -/
theorem collect_of_observes {texts : List String} (h : c.Observes input texts) :
  c.collect input = .ok texts
  := by
  cases h with
  | given h =>
    rw [collect, if_neg]
    rw [List.isEmpty_iff]
    apply h
  | @lines text h hinput =>
    rw [collect, if_pos (List.isEmpty_iff.mpr h), observationsIn, ← hinput,
      Text.fromUTF8?_toUTF8]

/-- What is collected is what a command observes. -/
theorem observes_of_collect {texts : List String} (h : c.collect input = .ok texts) :
  c.Observes input texts
  := by
  rw [collect] at h
  split at h
  · rename_i hgiven
    rw [observationsIn] at h
    split at h
    · rename_i text htext
      cases h
      exact .lines (List.isEmpty_iff.mp hgiven) (Text.toUTF8_of_fromUTF8? htext)
    · cases h
  · rename_i hgiven
    cases h
    rw [List.isEmpty_iff] at hgiven
    exact .given hgiven

/-- If the lines of the input are texts where they are observed, then something is. -/
theorem exists_observes (h : c.Passes input .input) :
  ∃ texts, c.Observes input texts
  := by
  by_cases hgiven : c.observations = []
  · have htext := (Text.isText_iff_lines _).mpr (h hgiven)
    obtain ⟨text, htext⟩ := (Text.isText_iff_fromUTF8? _).mp htext
    exact ⟨_, .lines hgiven (Text.toUTF8_of_fromUTF8? htext)⟩
  · exact ⟨_, .given hgiven⟩

/-- If the lines of the input are observed, and are not texts, then nothing is collected. -/
theorem collect_of_not_input (h : ¬ c.Passes input .input) :
  c.collect input = .error .unreadableInput
  := by
  obtain ⟨hgiven, hlines⟩ := Classical.not_imp.mp h
  rw [← Text.isText_iff_lines, Text.isText_iff_fromUTF8?] at hlines
  rw [collect, if_pos (List.isEmpty_iff.mpr hgiven), observationsIn]
  cases htext : String.fromUTF8? input with
  | some text => cases hlines ⟨text, htext⟩
  | none => rfl

/-! ### All stages -/

/-- The first stage that fails is the reason for which the command does. -/
theorem evaluate_of_failsFirst {s : Stage} (h : c.FailsFirst input s) (σ : Schedule) :
  ∃ f : Failure, c.evaluate σ input = .error f ∧ f.code = s.code
  := by
  obtain ⟨hfails, hbefore⟩ := h
  cases s with
  | json =>
    obtain ⟨e, he⟩ := build_of_not_json hfails
    use .notJson e
    rw [evaluate, he]
    exact ⟨rfl, rfl⟩
  | matcher =>
    obtain ⟨e, he⟩ := build_of_not_described (hbefore .json (by decide)) hfails
    use .refused e
    rw [evaluate, he]
    exact ⟨rfl, rfl⟩
  | input =>
    obtain ⟨m, hm⟩ := hbefore .matcher (by decide)
    use .unreadableInput
    rw [evaluate, build_of_describes hm, collect_of_not_input hfails]
    exact ⟨rfl, rfl⟩
  | observations =>
    obtain ⟨m, hm⟩ := hbefore .matcher (by decide)
    simp only [Passes, Classical.not_imp, not_forall, not_exists] at hfails
    obtain ⟨hnumber, texts, htexts, text, hmem, hobserved⟩ := hfails
    rw [← hm.subcommand_eq] at hnumber
    obtain ⟨e, he⟩ := m.evaluate_of_mem σ hnumber hmem hobserved
    use .refused e
    rw [evaluate, build_of_describes hm, collect_of_observes htexts]
    simp only [bind, Except.bind, he]
    exact ⟨rfl, rfl⟩

/-- If no stage fails, the command has an outcome for each thing that it observes. -/
theorem evaluate_of_passes (h : ∀ s, c.Passes input s) (σ : Schedule) :
  ∃ m texts, c.Describes m ∧ c.Observes input texts ∧
    c.evaluate σ input = .ok ⟨m, outcomesOf m.accepts texts⟩
  := by
  obtain ⟨m, hm⟩ := h .matcher
  obtain ⟨texts, htexts⟩ := exists_observes (h .input)
  use m, texts, hm, htexts
  have hevaluate : m.evaluate σ texts = .ok (outcomesOf m.accepts texts) := by
    apply Matcher.evaluate_of_forall
    intro hnumber
    rw [hm.subcommand_eq] at hnumber
    apply h .observations hnumber texts htexts
  rw [evaluate, build_of_describes hm, collect_of_observes htexts]
  simp only [bind, Except.bind, hevaluate]
  rfl

end CommandLine.Command

/-! ### Answers -/

/-- The answer of a run that fails: an exit code, no output, and a message. -/
def Answer.Failed (a : Answer) (code : UInt8) : Prop :=
  a.code = code ∧ a.output = "" ∧ ∃ message, a.errors = "sigmatch: " ++ message ++ "\n"

/-- Failures have exit codes of their own. -/
theorem Failure.code_eq (f : Failure) :
  f.code = 2 ∨ f.code = 3
  := by
  cases f with
  | notJson e => exact Or.inl rfl
  | refused e => exact Or.inl rfl
  | unreadableInput => exact Or.inr rfl

theorem Failure.code_ne_zero (f : Failure) :
  f.code ≠ 0
  := by
  rcases f.code_eq with h | h <;> rw [h] <;> decide

theorem Evaluation.code_eq_zero_iff (e : Evaluation) :
  e.code = 0 ↔ 0 < matchCount e.outcomes
  := by
  by_cases h : 0 < matchCount e.outcomes
  · simp [code, h]
  · simp [code, h]

/-- A report of matches alone is empty exactly when nothing matched. -/
theorem Report.text_eq_empty_iff (colour : Bool) (outcomes : List Outcome) :
  Report.text colour false outcomes = "" ↔ matchCount outcomes = 0
  := by
  have hline (o : Outcome) : line colour false o = [] ↔ o.matched = false := by
    cases h : o.matched with
    | true => simp [line, h]
    | false => simp [line, h]
  rw [Report.text, ← String.toList_eq_nil_iff, String.toList_ofList, List.flatMap_eq_nil_iff,
    matchCount, List.countP_eq_zero]
  simp only [hline, Bool.not_eq_true]

theorem CommandLine.Command.log_of_unset {env : Environment} (h : env "SIGMATCH_LOG" = none)
    (c : Command) (σ : Schedule) (time : String) (input : ByteArray) :
  c.log σ env time input = ""
  := by
  rw [log, h]

theorem run_of_read {args : List ByteArray} {c : Command}
    (h : CommandLine.read (args.map Argument.ofBytes) = .ok (some c)) (σ : Schedule)
    (env : Environment) (time : String) (input : ByteArray) :
  runOn σ env time args input = c.answer σ env time input
  := by
  rw [runOn, h]

theorem run_of_stop {args : List ByteArray} {stop : CommandLine.Stop}
    (h : CommandLine.read (args.map Argument.ofBytes) = .error stop) (σ : Schedule)
    (env : Environment) (time : String) (input : ByteArray) :
  runOn σ env time args input = stop.answer env
  := by
  rw [runOn, h]

/-- What a run leaves behind when no events are asked for, whatever the schedule is.  If stages
fail, then the first of them decides: the run ends with its exit code and a message, and has
written nothing.  If none fails, then no message is written, and the exit code says whether the
matcher accepts something that is observed.  A report that lists matches alone has something to
list exactly when the exit code is 0. -/
theorem run_outcome {env : Environment} {args : List ByteArray} {c : Command}
    (hlog : env "SIGMATCH_LOG" = none)
    (hread : CommandLine.read (args.map Argument.ofBytes) = .ok (some c)) (time : String)
    (input : ByteArray) (σ : Schedule) :
  (∀ s, c.FailsFirst input s → (runOn σ env time args input).Failed s.code) ∧
  ((∀ s, c.Passes input s) →
    (runOn σ env time args input).errors = "" ∧
    ∃ m texts, c.Describes m ∧ c.Observes input texts ∧
      (runOn σ env time args input).code = if texts.any m.accepts then 0 else 1) ∧
  (c.display.output = .text → c.display.all = false →
    ((runOn σ env time args input).output ≠ "" ↔ (runOn σ env time args input).code = 0))
  := by
  rw [run_of_read hread]
  have hlog := CommandLine.Command.log_of_unset hlog c σ time input
  refine ⟨?_, ?_, ?_⟩
  · intro s hs
    obtain ⟨f, hf, hcode⟩ := CommandLine.Command.evaluate_of_failsFirst hs σ
    rw [CommandLine.Command.answer, hf]
    simp only [hlog]
    exact ⟨hcode, rfl, f.message, by rw [String.empty_append]⟩
  · intro h
    obtain ⟨m, texts, hm, htexts, he⟩ := CommandLine.Command.evaluate_of_passes h σ
    rw [CommandLine.Command.answer, he]
    use hlog, m, texts, hm, htexts
    simp only [Evaluation.code, matchCount_outcomesOf_pos_iff]
  · intro houtput hall
    rw [CommandLine.Command.answer]
    cases c.evaluate σ input with
    | error f =>
      constructor
      · intro h
        cases h rfl
      · intro h
        cases f.code_ne_zero h
    | ok e =>
      simp only [Evaluation.report, houtput, hall]
      rw [Ne, Report.text_eq_empty_iff, e.code_eq_zero_iff, Nat.pos_iff_ne_zero]

/-- Two observations, of which the second is no number. -/
theorem run_outcome_of_misread :
  (run (fun _ => none) "" (["number", "<= 0x10", "0xF", "zz"].map String.toUTF8) .empty).Failed 2
  := by
  let c : Command :=
    ⟨.number, "<= 0x10", false, ["0xF", "zz"], ⟨.text, false, false, false⟩⟩
  have hread : CommandLine.read
      ((["number", "<= 0x10", "0xF", "zz"].map String.toUTF8).map Argument.ofBytes)
        = .ok (some c) := by
    simp only [List.map, CommandLine.Argument.ofBytes_toUTF8]
    rfl
  have hgiven : c.observations ≠ [] := by decide
  have hfails : c.FailsFirst .empty .observations := by
    constructor
    · intro h
      obtain ⟨observed, hobserved⟩ := h rfl c.observations (.given hgiven) "zz" (by decide)
      cases hobserved
    · intro before _
      cases before with
      | json => nofun
      | matcher =>
        have hm : Matcher.ofText .number "<= 0x10"
            = .ok (.number (.compare .le ⟨16, by decide, by decide⟩)) := rfl
        exact ⟨_, .compact rfl hm⟩
      | input =>
        intro h
        cases hgiven h
      | observations => contradiction
  exact (run_outcome rfl hread "" .empty .oneThread).1 .observations hfails

end MatchCriteria
