import MatchCriteria.Proofs.Answers
import MatchCriteria.Proofs.CommandLine.Interleaving
import MatchCriteria.Proofs.Report.Document
import MatchCriteria.Proofs.Report.Text
import MatchCriteria.Proofs.Text.Lines

/-!
# The formats of a report

The same command can be reported as JSON, as lines for the matches, or as lines for all of its
outcomes.  These reports agree: whichever is asked for, the exit code is the same, and the lines
are those of the results that are read from the JSON.
-/

namespace MatchCriteria

open CommandLine (Argument Command Display)

/-! ### Counting outcomes -/

/-- An input has at most as many lines as bytes. -/
theorem length_of_observationsIn {input : ByteArray} {texts : List String}
    (h : observationsIn input = .ok texts) :
  texts.length ≤ input.size
  := by
  rw [observationsIn] at h
  split at h
  · rename_i text htext
    cases h
    have hbytes : input.size = (Text.utf8 text.toList).length := by
      rw [← Text.toUTF8_of_fromUTF8? htext, ← Text.toList_toUTF8]
      rfl
    rw [List.length_map, hbytes]
    apply Nat.le_trans (Text.length_lines_le _) (Text.length_le_utf8 _)
  · cases h

namespace CommandLine.Command

variable {c : Command} {input : ByteArray} {e : Evaluation}

theorem length_of_collect {texts : List String} {bound : Nat}
    (hobservations : c.observations.length < bound) (hinput : input.size < bound)
    (h : c.collect input = .ok texts) :
  texts.length < bound
  := by
  rw [collect] at h
  split at h
  · apply Nat.lt_of_le_of_lt (length_of_observationsIn h) hinput
  · cases h
    apply hobservations

/-- There are as few outcomes as there are observations, or bytes in the input. -/
theorem length_outcomes_lt {bound : Nat} (hobservations : c.observations.length < bound)
    (hinput : input.size < bound) {σ : Schedule} (h : c.evaluate σ input = .ok e) :
  e.outcomes.length < bound
  := by
  obtain ⟨m, -, h⟩ := exists_of_bind_eq_ok h
  obtain ⟨texts, hcollect, h⟩ := exists_of_bind_eq_ok h
  obtain ⟨outcomes, houtcomes, h⟩ := exists_of_bind_eq_ok h
  cases h
  cases hevaluate : m.evaluate σ texts with
  | error f =>
    rw [hevaluate] at houtcomes
    cases houtcomes
  | ok os =>
    rw [hevaluate] at houtcomes
    cases houtcomes
    rw [Matcher.length_of_evaluate hevaluate]
    apply length_of_collect hobservations hinput hcollect

end CommandLine.Command

/-! ### Displays -/

/-- The same command with another display. -/
def CommandLine.Command.shownAs (c : Command) (d : Display) : Command := { c with display := d }

theorem CommandLine.Command.evaluate_shownAs (c : Command) (d : Display) (σ : Schedule)
    (input : ByteArray) :
  (c.shownAs d).evaluate σ input = c.evaluate σ input
  := rfl

theorem Failure.code_ne_one (f : Failure) :
  f.code ≠ 1
  := by
  rcases f.code_eq with h | h <;> rw [h] <;> decide

/-- What an evaluation is summed up to. -/
def Evaluation.summary (e : Evaluation) : Report.Summary :=
  ⟨e.matcher.render, matchCount e.outcomes, e.outcomes.length, e.outcomes⟩

section

variable {c : Command} {σ : Schedule} {input : ByteArray} {args : List ByteArray} {d : Display}

/-- A command that fails does so with every display and every schedule. -/
theorem run_shownAs_of_error {f : Failure} (h : c.evaluate σ input = .error f)
    (hread : CommandLine.read (args.map Argument.ofBytes) = .ok (some (c.shownAs d)))
    (σ' : Schedule) (env : Environment) (time : String) :
  (runOn σ' env time args input).code = f.code ∧ (runOn σ' env time args input).output = ""
  := by
  have halike := c.evaluate_alike σ σ' input
  rw [h] at halike
  obtain ⟨f', h', hcode⟩ := halike.exists_of_error
  rw [run_of_read hread, CommandLine.Command.answer, c.evaluate_shownAs d, h']
  exact ⟨hcode.symm, rfl⟩

/-- A command that does not fail has the same evaluation with every display and every
schedule. -/
theorem run_shownAs_of_ok {e : Evaluation} (h : c.evaluate σ input = .ok e)
    (hread : CommandLine.read (args.map Argument.ofBytes) = .ok (some (c.shownAs d)))
    (σ' : Schedule) (env : Environment) (time : String) :
  (runOn σ' env time args input).code = e.code ∧
    (runOn σ' env time args input).output
      = e.report d.output ((c.shownAs d).colour env) d.all
  := by
  have halike := c.evaluate_alike σ σ' input
  rw [h] at halike
  rw [run_of_read hread, CommandLine.Command.answer, c.evaluate_shownAs d, halike.eq_of_ok]
  exact ⟨rfl, rfl⟩

end

/-- A run of one command reports the same results in every format.  Whatever the display and the
schedule are, the exit code is the same.  If it is 0 or 1 then there are results whose numbers are
right, and from which the exit code follows; they are what is read from a report in JSON, and
their lines are a report as text, where that has no colours.  Reports in JSON do not differ from
each other.

The bounds hold of everything that has an address of 64 bits: they say that observations, and
bytes of the input, can be counted as the numbers in a report are. -/
theorem run_of_formats {c : Command} {input : ByteArray}
    (hobservations : c.observations.length < 0x10000000000000000)
    (hinput : input.size < 0x10000000000000000) (env : Environment) :
  ∃ code : UInt8,
    (∀ args d σ time, CommandLine.read (args.map Argument.ofBytes) = .ok (some (c.shownAs d)) →
      (runOn σ env time args input).code = code) ∧
    (code = 0 ∨ code = 1 → ∃ s : Report.Summary,
      s.total = s.results.length ∧ s.matched = s.results.countP Outcome.matched ∧
      (code = 0 ↔ 0 < s.matched) ∧
      ∀ args d σ time, CommandLine.read (args.map Argument.ofBytes) = .ok (some (c.shownAs d)) →
        (d.output = .json → Report.parse? (runOn σ env time args input).output = some s) ∧
        (d.output = .text → (c.shownAs d).colour env = false →
          (runOn σ env time args input).output = String.join (Report.lines d.all s.results))) ∧
    ∀ args args' d d' σ σ' time time',
      CommandLine.read (args.map Argument.ofBytes) = .ok (some (c.shownAs d)) →
      CommandLine.read (args'.map Argument.ofBytes) = .ok (some (c.shownAs d')) →
      d.output = .json → d'.output = .json →
        (runOn σ env time args input).output = (runOn σ' env time' args' input).output
  := by
  cases h : c.evaluate .oneThread input with
  | error f =>
    refine ⟨f.code, ?_, ?_, ?_⟩
    · intro args d σ time hread
      apply (run_shownAs_of_error h hread σ env time).1
    · rintro (hcode | hcode)
      · cases f.code_ne_zero hcode
      · cases f.code_ne_one hcode
    · intro args args' d d' σ σ' time time' hread hread' _ _
      rw [(run_shownAs_of_error h hread σ env time).2,
        (run_shownAs_of_error h hread' σ' env time').2]
  | ok e =>
    have hlength := CommandLine.Command.length_outcomes_lt hobservations hinput h
    refine ⟨e.code, ?_, ?_, ?_⟩
    · intro args d σ time hread
      apply (run_shownAs_of_ok h hread σ env time).1
    · intro _
      refine ⟨e.summary, rfl, rfl, e.code_eq_zero_iff, ?_⟩
      intro args d σ time hread
      rw [(run_shownAs_of_ok h hread σ env time).2]
      constructor
      · intro hjson
        rw [hjson]
        apply Report.parse?_json _ hlength
      · intro htext hcolour
        rw [htext, hcolour]
        apply Report.text_eq_join
    · intro args args' d d' σ σ' time time' hread hread' hjson hjson'
      rw [(run_shownAs_of_ok h hread σ env time).2,
        (run_shownAs_of_ok h hread' σ' env time').2, hjson, hjson']
      rfl

/-- A match, a miss without a value, and a miss, as JSON and as lines. -/
theorem run_of_formats_of_absent :
  ∃ s : Report.Summary, 0 < s.matched ∧
    Report.parse? (run (fun _ => none) "" (Command.line ⟨.number, "<= 0x10", false,
      ["0xF", "", "11"], ⟨.json, false, false, false⟩⟩) .empty).output = some s ∧
    (run (fun _ => none) "" (Command.line ⟨.number, "<= 0x10", false, ["0xF", "", "11"],
      ⟨.text, true, false, false⟩⟩) .empty).output = String.join (Report.lines true s.results)
  := by
  have hjson := Command.read_line ⟨.number, "<= 0x10", false, ["0xF", "", "11"],
    ⟨.json, false, false, false⟩⟩
  have htext := Command.read_line ⟨.number, "<= 0x10", false, ["0xF", "", "11"],
    ⟨.text, true, false, false⟩⟩
  obtain ⟨e, hevaluate, hzero⟩ : ∃ e, Command.evaluate ⟨.number, "<= 0x10", false,
      ["0xF", "", "11"], ⟨.text, true, false, false⟩⟩ .oneThread .empty = .ok e ∧ e.code = 0 :=
    ⟨_, rfl, rfl⟩
  have hinput : ByteArray.empty.size < 0x10000000000000000 := by
    decide
  obtain ⟨code, hcode, hsummary, -⟩ :=
    run_of_formats (c := ⟨.number, "<= 0x10", false, ["0xF", "", "11"],
      ⟨.text, true, false, false⟩⟩) (by decide) hinput (fun _ => none)
  have hmatches : code = 0 := by
    rw [← hcode _ _ .oneThread "" htext, run_of_read htext, Command.answer, hevaluate]
    apply hzero
  obtain ⟨s, -, -, hmatched, hreports⟩ := hsummary (Or.inl hmatches)
  exact ⟨s, hmatched.mp hmatches, (hreports _ _ .oneThread "" hjson).1 rfl,
    (hreports _ _ .oneThread "" htext).2 rfl rfl⟩

end MatchCriteria
