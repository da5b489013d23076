import MatchCriteria.Proofs.CommandLine.JsonFlag
import MatchCriteria.Proofs.Json.Layout
import MatchCriteria.Proofs.Observations

/-!
# Matchers as JSON on the command line

A matcher that is written compactly can be written as a string of JSON instead, in any of the
spellings of the string, if the flag for JSON is given.  What a run leaves behind is the same,
also where the matcher is refused; only the events that are told of it may differ.
-/

namespace MatchCriteria

open CommandLine (Argument Choice Command Part Subcommand)

namespace Json

/-- A text is a string of JSON between blanks, and the string denotes another text. -/
inductive Literal (s : String) : String → Prop where
  | mk {before spelled after : List Char} (hbefore : Blank before)
      (h : SpelledText s.toList spelled) (hafter : Blank after) :
      Literal s (String.ofList (before ++ '"' :: (spelled ++ ['"']) ++ after))

/-- A string of JSON is read as the text that it denotes. -/
theorem Literal.read_eq {s literal : String} (h : Literal s literal) :
  read literal = .ok (.string s)
  := by
  obtain ⟨hbefore, h, hafter⟩ := h
  apply read_of_reads ((reads_spelled depthLimit h).blank hbefore) hafter

end Json

/-- A string describes the matcher that is written as it. -/
theorem Matcher.ofJson_string (s : Subcommand) (text : String) :
  Matcher.ofJson s (.string text) = Matcher.ofText s text
  := by
  cases s <;> rfl

namespace CommandLine

/-- The arguments of a command line with its flags before two hyphens, and with a matcher and
observations behind them. -/
def argumentsOn (s : Subcommand) (flags : List Choice) (matcher : String)
    (observations : List ByteArray) : List ByteArray :=
  s.name.toUTF8 :: ((flags.flatMap Choice.written).map String.toUTF8
    ++ "--".toUTF8 :: matcher.toUTF8 :: observations)

theorem read_argumentsOn (s : Subcommand) (flags : List Choice) (matcher : String)
    (observations : List ByteArray) :
  read ((argumentsOn s flags matcher observations).map Argument.ofBytes)
    = (commandOf s (flags.map .choice)
        (.ofString matcher :: observations.map Argument.ofBytes)).map some
  := by
  have hplain : ∀ p ∈ flags.map Part.choice, p.IsPlain := by
    rw [List.forall_mem_map]
    intro _ _
    trivial
  have hread := read_parts s hplain
    (some (.ofString matcher :: observations.map Argument.ofBytes))
  rw [List.flatMap_map] at hread
  rw [argumentsOn, List.map_cons, List.map_append, map_ofBytes_toUTF8, List.map_cons,
    List.map_cons]
  simp only [Argument.ofBytes_toUTF8]
  exact hread

/-- A command line that is refused has an exit code of its own. -/
theorem code_of_commandOf {s : Subcommand} {parts : List Part} {values : List Argument}
    {stop : Stop} (h : commandOf s parts values = .error stop) :
  stop.code = 2
  := by
  rw [commandOf] at h
  cases hdraft : parts.foldlM Draft.takePart {} >>= fun d =>
      values.foldlM Draft.takeValue d with
  | error fault =>
    rw [hdraft] at h
    cases h
    rfl
  | ok d =>
    rw [hdraft] at h
    change d.command s = .error stop at h
    rw [Draft.command] at h
    split at h
    · cases h
      rfl
    · cases h

/-- A command that has its matcher as a string of JSON builds the same matcher. -/
theorem Command.build_asJson {c : Command} (hjson : c.json = false) {literal : String}
    (h : Json.Literal c.matcher literal) :
  (c.asJson literal).build = c.build
  := by
  have hread : Json.read (c.asJson literal).matcher = .ok (.string c.matcher) := h.read_eq
  rw [build_of_json rfl hread, build_of_compact hjson, Matcher.ofJson_string]
  rfl

/-- A command whose matcher is refused fails. -/
theorem Command.code_of_refused {c : Command} (hjson : c.json = false) {e : MatcherError}
    (h : Matcher.ofText c.subcommand c.matcher = .error e) (σ : Schedule) (env : Environment)
    (time : String) (input : ByteArray) :
  (c.answer σ env time input).code = 2
  := by
  have hevaluate : c.evaluate σ input = .error (.refused e) := by
    rw [evaluate, build_of_compact hjson, h]
    rfl
  rw [answer, hevaluate]
  rfl

end CommandLine

/-- Giving a matcher as a text and giving it as a string of JSON that denotes the text come to
the same: to the same output and exit code in every environment and with every two schedules, and
to the same messages where no events are asked for and the schedules are the same, as on single
threads; so the same messages are possible for both.  Two schedules lead to the same messages
too, unless there is a number matcher and several of the observations are no numbers; then each
schedule reports one of these.  A matcher that is refused is refused in both forms. -/
theorem run_plain_eq_run_json {before after : List Choice}
    (hbefore : ∀ c ∈ before, c.flag.isDisplay = true)
    (hafter : ∀ c ∈ after, c.flag.isDisplay = true) {text literal : String}
    (hliteral : Json.Literal text literal) (s : Subcommand) (observations : List ByteArray)
    (env : Environment) (time time' : String) (input : ByteArray) (σ σ' : Schedule) :
  let arguments := CommandLine.argumentsOn s (before ++ after) text observations
  let plain := runOn σ env time arguments input
  let json := runOn σ' env time'
    (CommandLine.argumentsOn s (before ++ .json :: after) literal observations) input
  plain.output = json.output ∧ plain.code = json.code ∧
    (env "SIGMATCH_LOG" = none →
      (σ = σ' ∨ ∀ c m texts, CommandLine.read (arguments.map Argument.ofBytes) = .ok (some c) →
        c.Describes (.number m) → c.Observes input texts → SoleRefusal texts) →
      plain.errors = json.errors) ∧
    (∀ e, Matcher.ofText s text = .error e → plain.code = 2)
  := by
  intro arguments plain json
  have hother (c : Choice) (hc : c.flag.isDisplay = true) : c.flag ≠ .json := by
    intro hflag
    rw [hflag] at hc
    contradiction
  have hagree := CommandLine.agree_commandOf (fun c hc => hother c (hbefore c hc))
    (fun c hc => hother c (hafter c hc)) s text literal (observations.map Argument.ofBytes)
  have hplain := CommandLine.read_argumentsOn s (before ++ after) text observations
  have hjson := CommandLine.read_argumentsOn s (before ++ .json :: after) literal observations
  generalize hc : CommandLine.commandOf s ((before ++ after).map .choice) _ = r at hagree hplain
  generalize CommandLine.commandOf s ((before ++ .json :: after).map .choice) _ = r'
    at hagree hjson
  cases hagree with
  | error stop =>
    have hplain : plain = stop.answer env := run_of_stop hplain σ env time input
    have hjson : json = stop.answer env := run_of_stop hjson σ' env time' input
    rw [hplain, hjson]
    refine ⟨rfl, rfl, fun _ _ => rfl, ?_⟩
    intro _ _
    cases stop <;> exact CommandLine.code_of_commandOf hc
  | @ok c _ h =>
    obtain ⟨rfl, rfl, hcompact, rfl⟩ := h
    have hplain' : plain = c.answer σ env time input := run_of_read hplain σ env time input
    have hjson : json = (c.asJson literal).answer σ' env time' input :=
      run_of_read hjson σ' env time' input
    have hevaluate (σ : Schedule) : c.evaluate σ input = (c.asJson literal).evaluate σ input := by
      rw [Command.evaluate, Command.evaluate, Command.build_asJson hcompact hliteral]
      rfl
    have hdisplay : c.display = (c.asJson literal).display := rfl
    obtain ⟨houtput, hcode, herrors⟩ :=
      Command.answer_of_evaluate hevaluate hdisplay σ σ' env time time'
    rw [hplain', hjson]
    refine ⟨houtput, hcode, ?_, ?_⟩
    · intro hlog hsole
      apply herrors hlog
      apply hsole.imp_right
      intro hsole m texts
      apply hsole c m texts hplain
    · intro e he
      apply Command.code_of_refused hcompact he

/-- A pattern that is refused, and a string for it in which a slash has a short escape and a
character is the numbers of two surrogates. -/
theorem run_plain_eq_run_json_of_surrogates :
  (run (fun _ => none) ""
      (["text", "--all", "-o=json", "--", "/𝄞(/", "a", ""].map String.toUTF8) .empty).errors
    = (run (fun _ => none) "" (["text", "--all", "--json", "-o=json", "--",
        " \"\\/\\uD834\\udd1e(/\"\n", "a", ""].map String.toUTF8) .empty).errors ∧
  (run (fun _ => none) "" (["text", "--all", "--json", "-o=json", "--",
    " \"\\/\\uD834\\udd1e(/\"\n", "a", ""].map String.toUTF8) .empty).code = 2
  := by
  let all : Choice := .switch .all (by decide)
  let format : Choice := .format .letterEquals "json" trivial
  have hblank (c : Char) (hc : Json.isBlank c = true) : Json.Blank [c] := by
    intro b hb
    rw [List.mem_singleton.mp hb]
    apply hc
  have hpair : Json.Spelled '𝄞' "\\uD834\\udd1e".toList :=
    .pair (rfl : ['D', '8', '3', '4'].length = 4) (rfl : ['d', 'd', '1', 'e'].length = 4) rfl rfl
      (by decide) (by decide) rfl
  have hspelled : Json.SpelledText "/𝄞(/".toList "\\/\\uD834\\udd1e(/".toList :=
    .cons (.short (by decide)) (.cons hpair
      (.cons (.plain (by decide) (by decide) (by decide))
        (.cons (.plain (by decide) (by decide) (by decide)) .nil)))
  have hliteral : Json.Literal "/𝄞(/" " \"\\/\\uD834\\udd1e(/\"\n" :=
    .mk (hblank ' ' rfl) hspelled (hblank '\n' rfl)
  have hdisplay (c : Choice) (hc : c ∈ [all] ∨ c ∈ [format]) : c.flag.isDisplay = true := by
    rcases hc with hc | hc <;> rw [List.mem_singleton.mp hc] <;> rfl
  have hpattern : ∃ e, Matcher.ofText .text "/𝄞(/" = .error e := ⟨_, rfl⟩
  obtain ⟨e, he⟩ := hpattern
  obtain ⟨-, hcode, herrors, hrefused⟩ := run_plain_eq_run_json
    (fun c hc => hdisplay c (.inl hc)) (fun c hc => hdisplay c (.inr hc)) hliteral .text
    (["a", ""].map String.toUTF8) (fun _ => none) "" "" .empty .oneThread .oneThread
  exact ⟨herrors rfl (Or.inl rfl), hcode.symm.trans (hrefused e he)⟩

end MatchCriteria
