import MatchCriteria.Proofs.Answers
import MatchCriteria.Proofs.Report.Text

/-!
# What the environment decides

The environment says whether a report has colours, unless the command line does, and which
events are told of.  Neither reaches the evaluation of a command: in any two environments the
exit codes are the same, and so are the reports but for the sequences that style them.
-/

namespace MatchCriteria

open CommandLine (Argument Command)

/-- The sequences of colours are the only thing about the output that the environment
decides. -/
theorem CommandLine.Command.delete_output_answer (c : Command) (σ σ' : Schedule)
    (env env' : Environment) (time time' : String) (input : ByteArray) :
  Text.delete Report.sequences (c.answer σ env time input).output.toList
    = Text.delete Report.sequences (c.answer σ' env' time' input).output.toList
  := by
  have halike := c.evaluate_alike σ σ' input
  rw [answer, answer]
  generalize c.evaluate σ input = r, c.evaluate σ' input = r' at halike ⊢
  cases halike with
  | failure hcode => rfl
  | evaluation e =>
    simp only [Evaluation.report]
    cases c.display.output with
    | json => rfl
    | text =>
      simp only
      rw [Report.delete_text (c.colour env), Report.delete_text (c.colour env')]

/-- Where the flags ask for colours or refuse them, the environment does not decide about
them. -/
theorem CommandLine.Command.colour_of_flag {c : Command}
    (h : c.display.color = true ∨ c.display.noColor = true) (env env' : Environment) :
  c.colour env = c.colour env'
  := by
  have hcolour : ∃ b, c.display.colour? = some b := by
    rw [CommandLine.Display.colour?]
    rcases h with h | h
    · rw [h]
      split
      · exact ⟨false, rfl⟩
      · exact ⟨true, rfl⟩
    · rw [h]
      exact ⟨false, rfl⟩
  obtain ⟨b, hb⟩ := hcolour
  rw [colour, colour, hb]

/-- In two environments, and with two schedules, a command line has the same exit code, and the
same output once the sequences of colours are deleted from it.  Where it asks for JSON, asks for
colours or refuses them, it has the same output. -/
theorem run_of_environments {args : List ByteArray} {c : Command}
    (hread : CommandLine.read (args.map Argument.ofBytes) = .ok (some c))
    (env env' : Environment) (time time' : String) (input : ByteArray) (σ σ' : Schedule) :
  (runOn σ env time args input).code = (runOn σ' env' time' args input).code ∧
  Text.delete Report.sequences (runOn σ env time args input).output.toList
    = Text.delete Report.sequences (runOn σ' env' time' args input).output.toList ∧
  (c.display.output = .json ∨ c.display.color = true ∨ c.display.noColor = true →
    (runOn σ env time args input).output = (runOn σ' env' time' args input).output)
  := by
  rw [run_of_read hread, run_of_read hread]
  have halike := c.evaluate_alike σ σ' input
  refine ⟨Command.code_of_alike halike env env' time time',
    c.delete_output_answer σ σ' env env' time time' input, ?_⟩
  intro h
  apply Command.output_of_alike halike rfl
  rcases h with hjson | hflag
  · apply Or.inl hjson
  · apply Or.inr (Command.colour_of_flag hflag env env')

/-- An observation that has a sequence of its own, an empty one, and a miss, with colours and
without, and with directives that are malformed. -/
theorem run_of_environments_of_escape :
  Text.delete Report.sequences
      (run (fun name => if name = "COLOR" then some "" else none) ""
        (["text", "--all", "a", "\x1b[31ma", "", "b"].map String.toUTF8) .empty).output.toList
    = Text.delete Report.sequences
      (run (fun name => if name = "SIGMATCH_LOG" then some "[" else none) ""
        (["text", "--all", "a", "\x1b[31ma", "", "b"].map String.toUTF8) .empty).output.toList
  := by
  let c : Command :=
    ⟨.text, "a", false, ["\x1b[31ma", "", "b"], ⟨.text, true, false, false⟩⟩
  have hread : CommandLine.read
      ((["text", "--all", "a", "\x1b[31ma", "", "b"].map String.toUTF8).map Argument.ofBytes)
        = .ok (some c) := by
    simp only [List.map, CommandLine.Argument.ofBytes_toUTF8]
    rfl
  apply (run_of_environments hread _ _ "" "" .empty .oneThread .oneThread).2.1

end MatchCriteria
