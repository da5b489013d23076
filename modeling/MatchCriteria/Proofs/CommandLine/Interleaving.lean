import Mathlib.Data.List.Nodup
import MatchCriteria.Proofs.CommandLine.Order

/-!
# Reading what is written

A command can be written with its flags in any order, anywhere among its values, with the flag
for the format spelled in any way, and with two hyphens before some of the values or without.
However it is written, it is read as itself.
-/

namespace MatchCriteria.CommandLine

namespace Part

/-- The flag in a part. -/
def flag? : Part → Option Flag
  | choice c => some c.flag
  | value _ => none

/-- The format that a part asks for. -/
def format? : Part → Option String
  | choice (.format _ name _) => some name
  | _ => none

/-- The value in a part that belongs to no flag. -/
def text? : Part → Option String
  | choice _ => none
  | value text => some text

end Part

/-- The texts of a command line of parts, and of the values behind two hyphens, if there are two
hyphens. -/
def lineOf (s : Subcommand) (parts : List Part) (tail : Option (List String)) : List String :=
  s.name :: (parts.flatMap Part.written ++ tail.elim [] fun texts => "--" :: texts)

/-- A command line is one for a command: it has the flags of the command, each once, and the
matcher and the observations of the command in their order. -/
structure Writes (c : Command) (parts : List Part) (tail : Option (List String)) : Prop where
  plain : ∀ p ∈ parts, p.IsPlain
  distinct : (parts.filterMap Part.flag?).Nodup
  switches : ∀ f ∈ switches, f ∈ parts.filterMap Part.flag? ↔ c.gives f = true
  format : ∀ name ∈ parts.filterMap Part.format?, name = c.display.output.name
  unformatted : .output ∉ parts.filterMap Part.flag? → c.display.output = .text
  values : parts.filterMap Part.text? ++ tail.getD [] = c.matcher :: c.observations

namespace Draft

/-- A draft in which some flags have taken effect, and some texts that belong to no flag, where
every format that was asked for is the same. -/
structure Holds (d : Draft) (format : OutputFormat) (flags : List Flag) (texts : List String) :
    Prop where
  given : ∀ f, .flag f ∈ d.given ↔ f ∈ flags
  output : d.output = if .output ∈ flags then format else .text
  matcher : d.matcher = texts.head?
  observations : d.observations = texts.tail

variable {d : Draft} {format : OutputFormat} {flags : List Flag} {texts : List String}

/-- A flag that is marked is one more. -/
theorem Holds.given_mark (h : d.Holds format flags texts) (f g : Flag) :
  .flag g ∈ (d.mark (.flag f)).given ↔ g ∈ flags ++ [f]
  := by
  rw [mem_mark, h.given, Parameter.flag.injEq, List.mem_append, List.mem_singleton]

/-- Marking what is no flag changes nothing that is held. -/
theorem Holds.mark_value (h : d.Holds format flags texts) {p : Parameter}
    (hp : ∀ f, p ≠ .flag f) :
  (d.mark p).Holds format flags texts
  := by
  constructor
  case given =>
    intro f
    rw [mem_mark, or_iff_left (hp f).symm, h.given]
  case output => rw [output_mark, h.output]
  case matcher => rw [matcher_mark, h.matcher]
  case observations => rw [observations_mark, h.observations]

/-- A new flag without a value takes effect. -/
theorem Holds.takeSwitch (h : d.Holds format flags texts) {f : Flag} (hf : f ∈ switches)
    (hnew : f ∉ flags) :
  ∃ e, d.take (.flag f) [] = .ok e ∧ e.Holds format (flags ++ [f]) texts
  := by
  have hne : Flag.output ≠ f := by
    rintro rfl
    contradiction
  have htake : d.take (.flag f) [] = .ok (d.mark (.flag f)) := by
    have hgiven : .flag f ∉ d.given := mt (h.given f).mp hnew
    cases f with
    | output => contradiction
    | _ => exact if_neg hgiven
  refine ⟨_, htake, ?_⟩
  constructor
  case given => exact h.given_mark f
  case output =>
    simp only [output_mark, List.mem_append, List.mem_singleton, or_iff_left hne]
    exact h.output
  case matcher => rw [matcher_mark, h.matcher]
  case observations => rw [observations_mark, h.observations]

/-- The format takes effect where it is new. -/
theorem Holds.takeFormat (h : d.Holds format flags texts) (hnew : .output ∉ flags) :
  ∃ e, d.take (.flag .output) [.ofString format.name] = .ok e ∧
    e.Holds format (flags ++ [.output]) texts
  := by
  have hformat : formatOf (.ofString format.name) = .ok format := by
    rw [formatOf, Argument.text?_ofString, Option.bind_some, OutputFormat.ofName?_name]
  have htake : d.take (.flag .output) [.ofString format.name]
      = .ok { d.mark (.flag .output) with output := format } := by
    have hgiven : .flag .output ∉ d.given := mt (h.given .output).mp hnew
    rw [take]
    simp only [if_neg hgiven, hformat]
    rfl
  refine ⟨_, htake, ?_⟩
  constructor
  case given => exact h.given_mark .output
  case output => rw [if_pos List.mem_concat_self]
  case matcher => exact (d.matcher_mark _).trans h.matcher
  case observations => exact (d.observations_mark _).trans h.observations

/-- A text takes effect as the matcher where there is none, and as an observation elsewhere. -/
theorem Holds.takeValue (h : d.Holds format flags texts) (text : String) :
  ∃ e, d.takeValue (.ofString text) = .ok e ∧ e.Holds format flags (texts ++ [text])
  := by
  cases texts with
  | nil =>
    have hmark := h.mark_value (p := .matcher) nofun
    exact ⟨_, d.takeValue_matcher h.matcher text, { hmark with matcher := rfl }⟩
  | cons m texts =>
    have hmark := h.mark_value (p := .observations) nofun
    have htake : d.take .observations [.ofString text]
        = .ok { d.mark .observations with observations := d.observations ++ [text] } := by
      rw [take, ← List.map_singleton, mapM_textOf]
      rfl
    refine ⟨_, (d.takeValue_observation h.matcher _).trans htake,
      { hmark with matcher := hmark.matcher, observations := ?_ }⟩
    rw [h.observations]
    rfl

/-- A part of a command line takes effect. -/
theorem Holds.takePart (h : d.Holds format flags texts) {p : Part}
    (hnew : ∀ f ∈ p.flag?, f ∉ flags) (hformat : ∀ name ∈ p.format?, name = format.name) :
  ∃ e, d.takePart p = .ok e ∧
    e.Holds format (flags ++ p.flag?.toList) (texts ++ p.text?.toList)
  := by
  cases p with
  | choice c =>
    rw [Part.text?, Option.toList_none, List.append_nil]
    cases c with
    | switch f hf => apply h.takeSwitch hf (hnew f rfl)
    | format spelling value hvalue =>
      obtain rfl := hformat value rfl
      apply h.takeFormat (hnew .output rfl)
  | value text =>
    rw [Part.flag?, Option.toList_none, List.append_nil]
    apply h.takeValue text

/-- The parts of a command line take effect, each flag once. -/
theorem Holds.foldlM {parts : List Part} (h : d.Holds format flags texts)
    (hdistinct : (flags ++ parts.filterMap Part.flag?).Nodup)
    (hformat : ∀ name ∈ parts.filterMap Part.format?, name = format.name) :
  ∃ e, parts.foldlM Draft.takePart d = .ok e ∧
    e.Holds format (flags ++ parts.filterMap Part.flag?)
      (texts ++ parts.filterMap Part.text?)
  := by
  induction parts generalizing d flags texts with
  | nil =>
    refine ⟨d, rfl, ?_⟩
    simpa using h
  | cons p parts ih =>
    have hcons {α : Type} (f : Part → Option α) :
        (p :: parts).filterMap f = (f p).toList ++ parts.filterMap f := by
      cases hf : f p <;> simp [hf]
    simp only [hcons, ← List.append_assoc] at hdistinct hformat ⊢
    have hnew : ∀ f ∈ p.flag?, f ∉ flags := by
      intro f hf hmem
      have hdisjoint := List.disjoint_of_nodup_append (List.Nodup.of_append_left hdistinct)
      apply hdisjoint hmem
      rw [Option.mem_toList]
      apply hf
    have hname : ∀ name ∈ p.format?, name = format.name := by
      intro name hname
      apply hformat
      rw [List.mem_append, Option.mem_toList]
      exact Or.inl hname
    obtain ⟨c, hc, hholds⟩ := h.takePart hnew hname
    obtain ⟨e, he, hresult⟩ := ih hholds hdistinct fun name hmem =>
      hformat name (List.mem_append_right _ hmem)
    refine ⟨e, ?_, hresult⟩
    rw [List.foldlM_cons, hc]
    exact he

/-- A draft that holds the flags and the texts of a command is one of that command. -/
theorem Holds.command_eq {c : Command}
    (h : d.Holds c.display.output flags (c.matcher :: c.observations))
    (hswitches : ∀ f ∈ CommandLine.switches, f ∈ flags ↔ c.gives f = true)
    (hunformatted : .output ∉ flags → c.display.output = .text) :
  d.command c.subcommand = .ok c
  := by
  have hgives : ∀ f ∈ CommandLine.switches, d.given.contains (.flag f) = c.gives f := by
    intro f hf
    rw [Bool.eq_iff_iff, List.contains_iff_mem, h.given, hswitches f hf]
  have houtput : d.output = c.display.output := by
    rw [h.output]
    split
    · rfl
    · rename_i hmem
      rw [hunformatted hmem]
  simp only [CommandLine.switches, List.forall_mem_cons] at hgives
  obtain ⟨hjson, hall, hcolor, hnoColor, -⟩ := hgives
  rw [command, h.matcher, List.head?_cons]
  simp only [h.observations, List.tail_cons, houtput, hjson, hall, hcolor, hnoColor]
  rfl

end Draft

theorem map_ofString_lineOf (s : Subcommand) (parts : List Part) (tail : Option (List String)) :
  (lineOf s parts tail).map Argument.ofString
    = .ofString s.name :: ((parts.flatMap Part.written).map .ofString
        ++ Draft.closing (tail.map (List.map .ofString)))
  := by
  cases tail <;> simp [lineOf, Draft.closing]

/-- Values take effect as parts of a command line do. -/
theorem commandOf_map_ofString (s : Subcommand) (parts : List Part) (texts : List String) :
  commandOf s parts (texts.map .ofString)
    = orStop (.command s) ((parts ++ texts.map Part.value).foldlM Draft.takePart {})
        >>= Draft.command s
  := by
  rw [commandOf, List.foldlM_append]
  simp only [List.foldlM_map]
  rfl

/-- The parts of a command line, with the values behind them, make up the command that the line
is for. -/
theorem Writes.commandOf_eq {c : Command} {parts : List Part} {tail : Option (List String)}
    (h : Writes c parts tail) :
  commandOf c.subcommand parts ((tail.getD []).map .ofString) = .ok c
  := by
  have hvalues {α : Type} (f : Part → Option α) (hf : ∀ text, f (.value text) = none) :
      (parts ++ (tail.getD []).map Part.value).filterMap f = parts.filterMap f := by
    simp [hf]
  have htexts : (parts ++ (tail.getD []).map Part.value).filterMap Part.text?
      = c.matcher :: c.observations := by
    rw [← h.values]
    simp [Part.text?, Function.comp_def]
  have hempty : Draft.Holds {} c.display.output [] [] := by
    constructor <;> simp
  have hdistinct :
      ([] ++ (parts ++ (tail.getD []).map Part.value).filterMap Part.flag?).Nodup := by
    rw [List.nil_append, hvalues Part.flag? fun _ => rfl]
    apply h.distinct
  have hformat : ∀ name ∈ (parts ++ (tail.getD []).map Part.value).filterMap Part.format?,
      name = c.display.output.name := by
    rw [hvalues Part.format? fun _ => rfl]
    apply h.format
  obtain ⟨d, hd, hholds⟩ := hempty.foldlM hdistinct hformat
  rw [List.nil_append, List.nil_append, hvalues Part.flag? fun _ => rfl, htexts] at hholds
  rw [commandOf_map_ofString, hd]
  exact hholds.command_eq h.switches h.unformatted

/-! ### Commands -/

namespace Command

/-- The parts of the command line that a command is written as. -/
def parts (c : Command) : List Part :=
  (switches.filter c.gives).attach.map
      (fun f => .choice (.switch f.val (List.mem_of_mem_filter f.property)))
    ++ [.choice (.format .wordApart c.display.output.name (Spelling.fits_name _ _))]

theorem flatMap_written_parts (c : Command) :
  c.parts.flatMap Part.written = c.flags
  := by
  have hswitches : (switches.filter c.gives).attach.flatMap (fun f => [f.val.argument])
      = (switches.filter c.gives).map Flag.argument := by
    rw [← List.map_eq_flatMap, List.attach_map_val]
  rw [parts, flags, List.flatMap_append, List.flatMap_map, ← hswitches]
  rfl

theorem filterMap_flag_parts (c : Command) :
  c.parts.filterMap Part.flag? = switches.filter c.gives ++ [.output]
  := by
  have hswitches : (switches.filter c.gives).attach.filterMap (fun f => some f.val)
      = switches.filter c.gives := by
    rw [List.filterMap_eq_map', List.attach_map_subtype_val]
  rw [parts, List.filterMap_append, List.filterMap_map]
  exact congrArg (· ++ [Flag.output]) hswitches

/-- The command line that a command is written as is one for it. -/
theorem writes_parts (c : Command) :
  Writes c c.parts (some (c.matcher :: c.observations))
  := by
  have hoff {f : Flag} (hf : f ∈ switches) : f ≠ .output := by
    rintro rfl
    contradiction
  constructor
  case plain =>
    intro p hp
    rcases List.mem_append.mp hp with hp | hp
    · obtain ⟨f, -, rfl⟩ := List.mem_map.mp hp
      trivial
    · rw [List.mem_singleton.mp hp]
      trivial
  case distinct =>
    have hfilter : (switches.filter c.gives).Nodup := List.filter_sublist.nodup (by decide)
    rw [filterMap_flag_parts, ← List.concat_eq_append]
    apply hfilter.concat
    intro houtput
    apply hoff (List.mem_of_mem_filter houtput) rfl
  case switches =>
    intro f hf
    rw [filterMap_flag_parts, List.mem_append, List.mem_filter, List.mem_singleton,
      or_iff_left (hoff hf), and_iff_right hf]
  case format => simp [parts, Part.format?]
  case unformatted =>
    intro h
    rw [filterMap_flag_parts] at h
    cases h List.mem_concat_self
  case values => simp [parts, Part.text?]

/-- A command line is read as the command that it was written for. -/
theorem read_line (c : Command) :
  read (c.line.map Argument.ofBytes) = .ok (some c)
  := by
  have h := c.writes_parts
  have hread := read_parts c.subcommand h.plain
    (some ((c.matcher :: c.observations).map Argument.ofString))
  rw [flatMap_written_parts] at hread
  rw [line, map_ofBytes_argumentsOf, map_ofBytes_toUTF8]
  exact hread.trans (congrArg (Except.map some) h.commandOf_eq)

end Command
/-- However a command is written, it is read as itself. -/
theorem read_of_writes {c : Command} {parts : List Part} {tail : Option (List String)}
    (h : Writes c parts tail) :
  read (((lineOf c.subcommand parts tail).map String.toUTF8).map Argument.ofBytes)
    = .ok (some c)
  := by
  have htail : (tail.map (List.map Argument.ofString)).getD []
      = (tail.getD []).map Argument.ofString := by
    cases tail <;> rfl
  rw [map_ofBytes_toUTF8, map_ofString_lineOf, read_parts _ h.plain, htail, h.commandOf_eq]
  rfl

/-- An empty matcher between flags, observations on both sides of a flag and of two hyphens, and
behind these what looks like flags. -/
theorem read_of_writes_of_mixed :
  Writes ⟨.number, "", false, ["a", "a", "-o", "--"], ⟨.json, true, false, true⟩⟩
      [.choice (.switch .all (by decide)), .value "", .value "a",
        .choice (.format .letterJoined "json" (Spelling.fits_name .json _)), .value "a",
        .choice (.switch .noColor (by decide))] (some ["-o", "--"]) ∧
    read ((["number", "--all", "", "a", "-ojson", "a", "--no-color", "--", "-o", "--"].map
        String.toUTF8).map Argument.ofBytes)
      = .ok (some ⟨.number, "", false, ["a", "a", "-o", "--"], ⟨.json, true, false, true⟩⟩)
  := by
  have h : Writes ⟨.number, "", false, ["a", "a", "-o", "--"], ⟨.json, true, false, true⟩⟩
      [.choice (.switch .all (by decide)), .value "", .value "a",
        .choice (.format .letterJoined "json" (Spelling.fits_name .json _)), .value "a",
        .choice (.switch .noColor (by decide))] (some ["-o", "--"]) := by
    constructor
    · simp [Part.IsPlain]
    · decide
    · decide
    · decide
    · decide
    · rfl
  exact ⟨h, read_of_writes h⟩

end MatchCriteria.CommandLine
