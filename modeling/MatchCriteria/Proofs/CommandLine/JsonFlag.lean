import MatchCriteria.Proofs.CommandLine.Order

/-!
# The flag for JSON

A command line with the flag for JSON among its flags, and with another matcher, is read as
another one is without the flag: both are refused with the same message, or both are read, and
their commands differ in nothing but the flag and the matcher.
-/

namespace MatchCriteria.CommandLine

theorem Agree.orStop {α β : Type} {r : α → β → Prop} {x : Except Fault α} {y : Except Fault β}
    (h : Agree r x y) (scope : Scope) :
  Agree r (CommandLine.orStop scope x) (CommandLine.orStop scope y)
  := by
  cases h with
  | error e => exact .error _
  | ok h => exact .ok h

namespace Draft

/-- Two drafts differ in the flag for JSON, which the second may have, and in the matcher. -/
structure AsJson (json : Prop) (matchers : Option (String × String)) (d e : Draft) : Prop where
  unmarked : .flag .json ∉ d.given
  marked : .flag .json ∈ e.given ↔ json
  given : ∀ p, p ≠ .flag .json → (p ∈ e.given ↔ p ∈ d.given)
  output : e.output = d.output
  matcher : d.matcher = matchers.map Prod.fst
  jsonMatcher : e.matcher = matchers.map Prod.snd
  observations : e.observations = d.observations

variable {json : Prop} {matchers : Option (String × String)} {d e : Draft}

/-! ### Flags -/

/-- Marking another parameter keeps the difference. -/
theorem AsJson.mark (h : AsJson json matchers d e) {p : Parameter} (hp : p ≠ .flag .json) :
  AsJson json matchers (d.mark p) (e.mark p)
  := by
  constructor
  case unmarked =>
    rw [mem_mark, not_or]
    exact ⟨h.unmarked, hp.symm⟩
  case marked => rw [mem_mark, or_iff_left hp.symm, h.marked]
  case given =>
    intro q hq
    rw [mem_mark, mem_mark, h.given q hq]
  case output => rw [output_mark, output_mark, h.output]
  case matcher => rw [matcher_mark, h.matcher]
  case jsonMatcher => rw [matcher_mark, h.jsonMatcher]
  case observations => rw [observations_mark, observations_mark, h.observations]

/-- Another flag takes effect in both drafts, or in neither. -/
theorem AsJson.take_flag (h : AsJson json matchers d e) {f : Flag} (hf : f ≠ .json)
    (values : List Argument) :
  Agree (AsJson json matchers) (d.take (.flag f) values) (e.take (.flag f) values)
  := by
  have hne : Parameter.flag f ≠ .flag .json := mt Parameter.flag.inj hf
  have hmark := h.mark hne
  have hgiven := h.given (.flag f) hne
  cases f with
  | output =>
    cases values with
    | nil => exact .error _
    | cons value values =>
      simp only [take, hgiven]
      split
      · exact .error _
      · cases formatOf value with
        | error fault => exact .error fault
        | ok format => exact .ok { hmark with output := rfl }
  | json => contradiction
  | _ =>
    simp only [take, hgiven]
    split
    · exact .error _
    · exact .ok hmark

/-- The flag for JSON takes effect in the second draft. -/
theorem AsJson.take_json (h : AsJson False matchers d e) :
  ∃ e', e.take (.flag .json) [] = .ok e' ∧ AsJson True matchers d e'
  := by
  have hnew : .flag .json ∉ e.given := h.marked.mp
  refine ⟨e.mark (.flag .json), if_neg hnew, ?_⟩
  constructor
  case unmarked => exact h.unmarked
  case marked =>
    rw [mem_mark]
    simp
  case given =>
    intro p hp
    rw [mem_mark, or_iff_left hp, h.given p hp]
  case output => rw [output_mark, h.output]
  case matcher => exact h.matcher
  case jsonMatcher => rw [matcher_mark, h.jsonMatcher]
  case observations => rw [observations_mark, h.observations]

/-! ### Values -/

/-- The first text of each command line is its matcher. -/
theorem AsJson.takeValue_matcher (h : AsJson json none d e) (text literal : String) :
  Agree (AsJson json (some (text, literal))) (d.takeValue (.ofString text))
    (e.takeValue (.ofString literal))
  := by
  have hmark := h.mark (p := .matcher) nofun
  rw [d.takeValue_matcher h.matcher, e.takeValue_matcher h.jsonMatcher]
  exact .ok { hmark with matcher := rfl, jsonMatcher := rfl }

/-- The next values of both command lines are their observations. -/
theorem AsJson.takeValue_observation {pair : String × String} (h : AsJson json (some pair) d e)
    (a : Argument) :
  Agree (AsJson json (some pair)) (d.takeValue a) (e.takeValue a)
  := by
  have hmark := h.mark (p := .observations) nofun
  rw [d.takeValue_observation h.matcher, e.takeValue_observation h.jsonMatcher, take, take]
  cases [a].mapM textOf with
  | error fault => exact .error fault
  | ok texts =>
    refine .ok { hmark with observations := ?_ }
    rw [h.observations]

/-! ### Command lines -/

/-- Other flags take effect in both drafts, or in neither. -/
theorem AsJson.foldlM_choices {choices : List Choice} (hchoices : ∀ c ∈ choices, c.flag ≠ .json)
    (h : AsJson json matchers d e) :
  Agree (AsJson json matchers) ((choices.map Part.choice).foldlM takePart d)
    ((choices.map Part.choice).foldlM takePart e)
  := by
  have hstep : ∀ p ∈ choices.map Part.choice, ∀ d e, AsJson json matchers d e →
      Agree (AsJson json matchers) (d.takePart p) (e.takePart p) := by
    rw [List.forall_mem_map]
    intro c hc d e h
    apply h.take_flag (hchoices c hc)
  exact .foldlM hstep h

/-- The same observations behind two matchers take effect in both drafts, or in neither. -/
theorem AsJson.foldlM_values (h : AsJson json none d e) (text literal : String)
    (observations : List Argument) :
  Agree (AsJson json (some (text, literal)))
    ((.ofString text :: observations).foldlM takeValue d)
    ((.ofString literal :: observations).foldlM takeValue e)
  := by
  rw [List.foldlM_cons, List.foldlM_cons]
  apply (h.takeValue_matcher text literal).bind
  intro d e h
  exact .foldlM (fun a _ _ _ h => h.takeValue_observation a) h

end Draft

/-- One command is another with the flag for JSON, and with another matcher. -/
def Command.asJson (c : Command) (literal : String) : Command :=
  { c with matcher := literal, json := true }

/-- The commands of two drafts differ in the flag for JSON and in the matcher. -/
theorem Draft.AsJson.agree_command {text literal : String} {d e : Draft}
    (h : AsJson True (some (text, literal)) d e) (s : Subcommand) :
  Agree (fun c c' => c.subcommand = s ∧ c.matcher = text ∧ c.json = false ∧
    c' = c.asJson literal) (d.command s) (e.command s)
  := by
  have hhas (f : Flag) (hf : f ≠ .json) :
      e.given.contains (.flag f) = d.given.contains (.flag f) := by
    rw [Bool.eq_iff_iff, List.contains_iff_mem, List.contains_iff_mem,
      h.given _ (mt Parameter.flag.inj hf)]
  have hjson : e.given.contains (.flag .json) = true := by
    rw [List.contains_iff_mem, h.marked]
    trivial
  have hplain : d.given.contains (.flag .json) = false := by
    rw [Bool.eq_false_iff, Ne, List.contains_iff_mem]
    apply h.unmarked
  rw [command, command, h.matcher, h.jsonMatcher]
  simp only [Option.map_some, h.output, h.observations, hjson, hplain, hhas .all (by decide),
    hhas .color (by decide), hhas .noColor (by decide)]
  exact .ok ⟨rfl, rfl, rfl, rfl⟩

/-- The flag for JSON as it is written. -/
def Choice.json : Choice := .switch .json (by decide)

/-- The flag for JSON among other flags, and another matcher, make the difference between two
commands that their command lines make. -/
theorem agree_commandOf {before after : List Choice} (hbefore : ∀ c ∈ before, c.flag ≠ .json)
    (hafter : ∀ c ∈ after, c.flag ≠ .json) (s : Subcommand) (text literal : String)
    (observations : List Argument) :
  Agree (fun c c' => c.subcommand = s ∧ c.matcher = text ∧ c.json = false ∧
      c' = c.asJson literal)
    (commandOf s ((before ++ after).map .choice) (.ofString text :: observations))
    (commandOf s ((before ++ .json :: after).map .choice) (.ofString literal :: observations))
  := by
  have hempty : Draft.AsJson False none {} {} := by
    constructor <;> simp
  rw [commandOf, commandOf, List.map_append, List.map_append, List.map_cons,
    List.foldlM_append, List.foldlM_append, bind_assoc, bind_assoc]
  apply Agree.bind (r := Draft.AsJson True (some (text, literal)))
  · apply Agree.orStop
    apply (hempty.foldlM_choices hbefore).bind
    intro d e h
    obtain ⟨e', he, h⟩ := h.take_json
    have htake : e.takePart (.choice .json) = .ok e' := he
    rw [List.foldlM_cons, htake]
    apply (h.foldlM_choices hafter).bind
    intro d e h
    apply h.foldlM_values
  · intro d e h
    apply h.agree_command

end MatchCriteria.CommandLine
