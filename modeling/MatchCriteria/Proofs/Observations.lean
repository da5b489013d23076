import MatchCriteria.Proofs.Answers
import MatchCriteria.Proofs.CommandLine.Writing
import MatchCriteria.Proofs.Text.Lines

/-!
# Observations from the command line and from the input

A command line either gives the observations or leaves them to the input, whose lines they are.
What a run leaves behind does not depend on which of the two it is, whatever the flags are and
however the lines are ended; only the events that are told of it do.
-/

namespace MatchCriteria

open CommandLine (Argument Command Draft Flags Subcommand)

namespace CommandLine

/-- A command that gives what another one finds in the input has the same evaluation. -/
theorem Command.evaluate_of_observationsIn {c : Command} {texts : List String}
    {input : ByteArray} (hnone : c.observations = []) (hsome : texts ≠ [])
    (h : observationsIn input = .ok texts) (unread : ByteArray) (σ : Schedule) :
  ({ c with observations := texts }).evaluate σ unread = c.evaluate σ input
  := by
  have hgiven : ({ c with observations := texts }).collect unread = .ok texts := by
    rw [collect, if_neg]
    rwa [List.isEmpty_iff]
  have hread : c.collect input = .ok texts := by
    rw [collect, hnone, List.isEmpty_nil, if_pos rfl, h]
  rw [evaluate, evaluate, hgiven, hread]
  rfl

end CommandLine

/-- The lines of an input are the texts that are written in it. -/
theorem observationsIn_written {texts : List String} {written : String}
    (hlines : ∀ text ∈ texts, Text.IsLine text.toList)
    (h : Text.Written (texts.map String.toList) written.toList) :
  observationsIn written.toUTF8 = .ok texts
  := by
  have hcs : ∀ line ∈ texts.map String.toList, Text.IsLine line := by
    rw [List.forall_mem_map]
    apply hlines
  rw [observationsIn, Text.fromUTF8?_toUTF8]
  simp only
  rw [h.lines_eq hcs, List.map_map]
  congr 1
  rw [List.map_congr_left (g := id), List.map_id]
  intro text _
  apply String.ofList_toList

/-- Giving texts on a command line and writing them line by line into its input come to the
same: to the same output and exit code in every environment and with every two schedules, and to
the same messages where no events are asked for and the schedules are the same, as on single
threads; so the same messages are possible for both.  Two schedules lead to the same messages
too, unless there is a number matcher and several of the texts are no numbers; then each schedule
reports one of these.  Each of the texts is an observation, the empty ones too. -/
theorem run_given_eq_run_written {env : Environment} {s : Subcommand} {flags : List ByteArray}
    {texts : List String} {written : String} (hflags : Flags (flags.map Argument.ofBytes))
    (hsome : texts ≠ []) (hlines : ∀ text ∈ texts, Text.IsLine text.toList)
    (hwritten : Text.Written (texts.map String.toList) written.toList) (matcher : String)
    (time time' : String) (unread : ByteArray) (σ σ' : Schedule) :
  let arguments := CommandLine.argumentsOf s flags (matcher :: texts)
  let given := runOn σ env time arguments unread
  let read := runOn σ' env time' (CommandLine.argumentsOf s flags [matcher]) written.toUTF8
  given.output = read.output ∧ given.code = read.code ∧
    (env "SIGMATCH_LOG" = none →
      (σ = σ' ∨ ∀ c m, CommandLine.read (arguments.map Argument.ofBytes) = .ok (some c) →
        c.Describes (.number m) → SoleRefusal texts) →
      given.errors = read.errors) ∧
    observationsIn written.toUTF8 = .ok texts
  := by
  intro arguments given read
  have hobserved := observationsIn_written hlines hwritten
  have hread (values : List String) := CommandLine.read_values s hflags matcher values
  simp only [← CommandLine.map_ofBytes_argumentsOf] at hread
  -- Flags that are refused are refused before any value is looked at.
  cases hdraft : (flags.map Argument.ofBytes).foldlM (Draft.argument s) {} >>=
      fun d => CommandLine.orStop (.command s) d.close with
  | error stop =>
    simp only [hdraft, Except.map] at hread
    have hgiven : given = stop.answer env := run_of_stop (hread texts) σ env time unread
    have hwritten : read = stop.answer env :=
      run_of_stop (hread []) σ' env time' written.toUTF8
    rw [hgiven, hwritten]
    exact ⟨rfl, rfl, fun _ _ => rfl, hobserved⟩
  | ok d =>
    simp only [hdraft, Except.map] at hread
    have hgiven : given = (d.commandOn s matcher texts).answer σ env time unread :=
      run_of_read (hread texts) σ env time unread
    have hwritten : read = (d.commandOn s matcher []).answer σ' env time' written.toUTF8 :=
      run_of_read (hread []) σ' env time' written.toUTF8
    have hevaluate (σ : Schedule) : (d.commandOn s matcher texts).evaluate σ unread
        = (d.commandOn s matcher []).evaluate σ written.toUTF8 :=
      Command.evaluate_of_observationsIn (c := d.commandOn s matcher []) rfl hsome hobserved
        unread σ
    have hdisplay : (d.commandOn s matcher texts).display = (d.commandOn s matcher []).display :=
      rfl
    obtain ⟨houtput, hcode, herrors⟩ :=
      Command.answer_of_evaluate hevaluate hdisplay σ σ' env time time'
    rw [hgiven, hwritten]
    refine ⟨houtput, hcode, ?_, hobserved⟩
    intro hlog hsole
    apply herrors hlog
    apply hsole.imp_right
    rintro hsole m _ hm (_ | hnone)
    · apply hsole _ m (hread texts) hm
    · cases hsome hnone

/-- An empty observation between two others, of which one ends with a carriage return and a line
feed, and the other with the input; and the same where the last one is no number, and the threads
come to it first. -/
theorem run_given_eq_run_written_of_empty :
  (run (fun _ => none) "" (CommandLine.argumentsOf .number
      (["-o", "json", "--all"].map String.toUTF8) ["<= 0x10", "0xF", "", "10"]) .empty).output
    = (run (fun _ => none) "" (CommandLine.argumentsOf .number
      (["-o", "json", "--all"].map String.toUTF8) ["<= 0x10"]) "0xF\r\n\n10".toUTF8).output ∧
  (runOn (.first "zz") (fun _ => none) "" (CommandLine.argumentsOf .number
      (["-o", "json", "--all"].map String.toUTF8) ["<= 0x10", "0xF", "", "zz"]) .empty).errors
    = (run (fun _ => none) "" (CommandLine.argumentsOf .number
      (["-o", "json", "--all"].map String.toUTF8) ["<= 0x10"]) "0xF\r\n\nzz".toUTF8).errors
  := by
  have hflags : Flags ((["-o", "json", "--all"].map String.toUTF8).map Argument.ofBytes) := by
    rw [CommandLine.map_ofBytes_toUTF8]
    apply Flags.format (Or.inl rfl) rfl
    apply Flags.flag (Or.inl ⟨_, _, rfl⟩)
    apply Flags.nil
  constructor
  · have hlines : ∀ text ∈ ["0xF", "", "10"], Text.IsLine text.toList := by
      decide
    have hwritten : Text.Written (["0xF", "", "10"].map String.toList) "0xF\r\n\n10".toList :=
      .returnFeed (.feed (.last (by decide)))
    apply (run_given_eq_run_written hflags (by decide) hlines hwritten "<= 0x10" "" "" .empty
      .oneThread .oneThread).1
  · have hlines : ∀ text ∈ ["0xF", "", "zz"], Text.IsLine text.toList := by
      decide
    have hwritten : Text.Written (["0xF", "", "zz"].map String.toList) "0xF\r\n\nzz".toList :=
      .returnFeed (.feed (.last (by decide)))
    have hothers : ∀ other ∈ ["0xF", ""] ++ [],
        ∃ observed, NumberMatcher.observation other = .ok observed := by
      rintro other (_ | ⟨_, _ | ⟨_, ⟨⟩⟩⟩)
      · exact ⟨_, rfl⟩
      · exact ⟨_, rfl⟩
    obtain ⟨-, -, herrors, -⟩ := run_given_eq_run_written hflags (by decide) hlines hwritten
      "<= 0x10" "" "" .empty (.first "zz") .oneThread
    apply herrors rfl
    right
    intro _ _ _ _
    apply soleRefusal_of_others hothers "zz"

end MatchCriteria
