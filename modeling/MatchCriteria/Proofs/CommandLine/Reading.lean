import MatchCriteria.CommandLine.Reading
import MatchCriteria.Proofs.Result

/-!
# Flags before two hyphens

Arguments that are flags, or values of flags, change a draft without giving it a matcher or
observations.  Behind two hyphens the first text is the matcher, and the others are the
observations.  Hence a command line with its flags before two hyphens and its values after them
is read as a command whose observations are the ones that were written, and nothing else about
the command depends on these.
-/

namespace MatchCriteria.CommandLine

/-- The argument is a word after two hyphens, or letters after one. -/
def Argument.IsFlag (a : Argument) : Prop :=
  (∃ name value, a.shape = .long name value) ∨ ∃ letter rest, a.shape = .short letter rest

/-- The argument is the flag for the format, with the format in the next argument. -/
def Argument.AsksForFormat (a : Argument) : Prop :=
  a = Argument.ofString "-o" ∨ a = Argument.ofString "--output"

/-- Arguments each of which is a flag, or the value of the one before it. -/
inductive Flags : List Argument → Prop where
  | nil : Flags []
  | flag {a : Argument} {args : List Argument} (h : a.IsFlag) (hs : Flags args) :
      Flags (a :: args)
  | format {a v : Argument} {args : List Argument} (h : a.AsksForFormat)
      (hv : v.shape = .value) (hs : Flags args) : Flags (a :: v :: args)

theorem Argument.AsksForFormat.isFlag {a : Argument} (h : a.AsksForFormat) :
  a.IsFlag
  := by
  rcases h with rfl | rfl
  · exact Or.inr ⟨_, _, rfl⟩
  · exact Or.inl ⟨_, _, rfl⟩

theorem Argument.IsFlag.shape_ne {a : Argument} (h : a.IsFlag) :
  a.shape ≠ .terminator
  := by
  rcases h with ⟨_, _, h⟩ | ⟨_, _, h⟩ <;> rw [h] <;> nofun

/-- None of the flags is the two hyphens that end them. -/
theorem Flags.shape_ne {args : List Argument} (h : Flags args) :
  ∀ a ∈ args, a.shape ≠ .terminator
  := by
  induction h with
  | nil => nofun
  | flag h _ ih =>
    rw [List.forall_mem_cons]
    exact ⟨h.shape_ne, ih⟩
  | format h hv _ ih =>
    rw [List.forall_mem_cons, List.forall_mem_cons, hv]
    exact ⟨h.isFlag.shape_ne, nofun, ih⟩

theorem orStop_eq_ok_iff {α : Type} (scope : Scope) (r : Except Fault α) (x : α) :
  orStop scope r = .ok x ↔ r = .ok x
  := by
  cases r with
  | ok y =>
    constructor
    · rintro ⟨⟩
      rfl
    · rintro ⟨⟩
      rfl
  | error e => constructor <;> nofun

theorem orStop_bind {α β : Type} (scope : Scope) (r : Except Fault α)
    (f : α → Except Fault β) :
  orStop scope (r >>= f) = orStop scope r >>= fun x => orStop scope (f x)
  := by
  cases r <;> rfl

namespace Draft

/-- Nothing that has been read is a matcher or an observation. -/
structure OnlyFlags (d : Draft) : Prop where
  matcher : d.matcher = none
  observations : d.observations = []
  pending : ∀ p values, d.pending = some (p, values) → ∃ f, p = .flag f

variable {s : Subcommand} {d e : Draft}

/-! ### Flags -/

theorem mark_eq (d : Draft) (p : Parameter) :
  ∃ given, d.mark p = { d with given := given }
  := by
  unfold mark
  split
  · exact ⟨d.given, rfl⟩
  · exact ⟨_, rfl⟩

/-- A flag that takes effect changes neither the matcher nor the observations. -/
theorem take_flag_eq {f : Flag} {values : List Argument} (h : d.take (.flag f) values = .ok e) :
  ∃ given output, e = { d with given := given, output := output }
  := by
  obtain ⟨given, hmark⟩ := d.mark_eq (.flag f)
  unfold take at h
  split at h
  · split at h
    · cases h
    · dsimp only at h
      split at h
      · cases h
      · obtain ⟨output, -, houtput⟩ := exists_of_bind_eq_ok h
        cases houtput
        use given, output
        rw [hmark]
  · split at h
    · cases h
    · cases h
      exact ⟨given, d.output, hmark⟩
  · contradiction
  · contradiction

theorem OnlyFlags.close {e : Draft} (h : d.OnlyFlags) (hclose : d.close = .ok e) :
  e.OnlyFlags ∧ e.pending = none
  := by
  rw [Draft.close] at hclose
  split at hclose
  · rename_i hpending
    cases hclose
    exact ⟨h, hpending⟩
  · rename_i p values hpending
    obtain ⟨f, rfl⟩ := h.pending p values hpending
    obtain ⟨given, output, rfl⟩ := take_flag_eq hclose
    exact ⟨⟨h.matcher, h.observations, nofun⟩, rfl⟩

/-- A flag leaves a draft without a matcher and observations. -/
theorem OnlyFlags.flag {f : Flag} {value : Option Argument} (h : d.OnlyFlags)
    (hflag : d.flag s f value = .ok e) :
  e.OnlyFlags
  := by
  have hput (p : Flag) (values : List Argument) (hput : d.put (.flag p) values = .ok e) :
      e.OnlyFlags := by
    obtain ⟨c, hclose, htake⟩ := exists_of_bind_eq_ok hput
    obtain ⟨hc, hpending⟩ := h.close hclose
    obtain ⟨given, output, rfl⟩ := take_flag_eq htake
    exact ⟨hc.matcher, hc.observations, hc.pending⟩
  unfold Draft.flag at hflag
  split at hflag
  case h_1 =>
    apply hput _ _ ((orStop_eq_ok_iff _ _ _).mp hflag)
  case h_2 =>
    obtain ⟨c, hclose, hbegin⟩ := exists_of_bind_eq_ok ((orStop_eq_ok_iff _ _ _).mp hflag)
    obtain ⟨hc, -⟩ := h.close hclose
    cases hbegin
    refine ⟨hc.matcher, hc.observations, ?_⟩
    rintro _ _ ⟨⟩
    exact ⟨.output, rfl⟩
  case h_3 => cases hflag
  case h_4 =>
    obtain ⟨_, -, hthrow⟩ := exists_of_bind_eq_ok hflag
    cases hthrow
  case h_5 =>
    obtain ⟨_, -, hthrow⟩ := exists_of_bind_eq_ok hflag
    cases hthrow
  case h_6 =>
    apply hput _ _ ((orStop_eq_ok_iff _ _ _).mp hflag)

theorem OnlyFlags.argument {a : Argument} (h : d.OnlyFlags) (ha : a.IsFlag)
    (hread : d.argument s a = .ok e) :
  e.OnlyFlags
  := by
  unfold Draft.argument at hread
  rcases ha with ⟨name, value, hshape⟩ | ⟨letter, rest, hshape⟩
  · rw [hshape] at hread
    simp only [long] at hread
    split at hread
    · apply h.flag hread
    · split at hread <;> cases hread
  · rw [hshape] at hread
    simp only [short] at hread
    split at hread
    · apply h.flag hread
    · cases hread

/-- The flag for the format waits for the argument after it. -/
theorem awaitsValue_of_argument {a : Argument} (ha : a.AsksForFormat)
    (hread : d.argument s a = .ok e) :
  e.awaitsValue = true
  := by
  have hflag : d.flag s .output none = .ok e := by
    cases s <;> rcases ha with rfl | rfl <;> exact hread
  obtain ⟨c, -, hbegin⟩ := exists_of_bind_eq_ok ((orStop_eq_ok_iff _ _ _).mp hflag)
  cases hbegin
  apply decide_eq_true rfl

/-- The flags of a command line leave a draft without a matcher and observations. -/
theorem OnlyFlags.foldlM {args : List Argument} (hargs : Flags args) (h : d.OnlyFlags)
    (hread : args.foldlM (Draft.argument s) d = .ok e) :
  e.OnlyFlags
  := by
  induction hargs generalizing d with
  | nil =>
    cases hread
    apply h
  | flag ha _ ih =>
    obtain ⟨c, hc, hrest⟩ := exists_of_bind_eq_ok hread
    apply ih (h.argument ha hc) hrest
  | @format a v args ha hv _ ih =>
    obtain ⟨c, hc, hread⟩ := exists_of_bind_eq_ok hread
    obtain ⟨c', hc', hrest⟩ := exists_of_bind_eq_ok hread
    have honly := h.argument ha.isFlag hc
    rw [Draft.argument, hv] at hc'
    simp only [awaitsValue_of_argument ha hc] at hc'
    cases hc'
    have hformat : OnlyFlags { c with pending := some (.flag .output, [v]) } := by
      refine ⟨honly.matcher, honly.observations, ?_⟩
      rintro _ _ ⟨⟩
      exact ⟨.output, rfl⟩
    apply ih hformat hrest

/-- Arguments before two hyphens are read one after the other. -/
theorem arguments_append {args : List Argument} (h : ∀ a ∈ args, a.shape ≠ .terminator)
    (s : Subcommand) (d : Draft) (rest : List Argument) :
  arguments s d false (args ++ rest)
    = args.foldlM (Draft.argument s) d >>= fun e => arguments s e false rest
  := by
  induction args generalizing d with
  | nil => rfl
  | cons a args ih =>
    rw [List.forall_mem_cons] at h
    rw [List.cons_append, arguments, if_neg Bool.false_ne_true, if_neg h.1, List.foldlM_cons,
      bind_assoc]
    congr
    funext e
    apply ih h.2

/-! ### Values -/

theorem mapM_textOf (texts : List String) :
  (texts.map Argument.ofString).mapM textOf = .ok texts
  := by
  induction texts with
  | nil => rfl
  | cons text texts ih =>
    have htext : textOf (Argument.ofString text) = .ok text := by
      rw [textOf, Argument.text?_ofString]
    rw [List.map_cons, List.mapM_cons, htext, ih]
    rfl

/-- The flags that are given are the same. -/
def SameFlags (given given' : List Parameter) : Prop :=
  ∀ f, given.contains (.flag f) = given'.contains (.flag f)

/-- A parameter that is no flag does not count among the flags. -/
theorem mark_value (d : Draft) {p : Parameter} (hp : ∀ f, p ≠ .flag f) :
  ∃ given, SameFlags given d.given ∧ d.mark p = { d with given := given }
  := by
  unfold mark
  split
  · exact ⟨d.given, fun _ => rfl, rfl⟩
  · refine ⟨d.given ++ [p], ?_, rfl⟩
    intro f
    simp [(hp f).symm]

/-- Once it is closed, the first value is the matcher. -/
theorem close_matcher (d : Draft) (matcher : String) :
  ∃ given, SameFlags given d.given ∧
    close { d with pending := some (.matcher, [Argument.ofString matcher]) }
      = .ok { d with given := given, matcher := some matcher, pending := none }
  := by
  obtain ⟨given, hgiven, hmark⟩ := mark_value { d with pending := none } (p := .matcher) nofun
  have htexts := mapM_textOf [matcher]
  rw [List.map_singleton] at htexts
  use given, hgiven
  simp only [close, take, htexts, hmark]
  rfl

/-- Once they are closed, the values that are open as observations are observations. -/
theorem close_observations (d : Draft) (texts : List String) :
  ∃ given, SameFlags given d.given ∧
    close { d with pending := some (.observations, texts.map Argument.ofString) }
      = .ok { d with
          given := given, observations := d.observations ++ texts, pending := none }
  := by
  obtain ⟨given, hgiven, hmark⟩ :=
    mark_value { d with pending := none } (p := .observations) nofun
  use given, hgiven
  simp only [close, take, mapM_textOf, hmark]
  rfl

/-- The first value behind the flags opens the matcher. -/
theorem OnlyFlags.positional (h : d.OnlyFlags) (a : Argument) :
  d.positional a = d.close.map fun e => { e with pending := some (.matcher, [a]) }
  := by
  unfold Draft.positional
  split
  · rename_i values hvalues
    obtain ⟨f, ⟨⟩⟩ := h.pending _ _ hvalues
  · cases hclose : d.close with
    | error f => rfl
    | ok e =>
      obtain ⟨he, hpending⟩ := h.close hclose
      have hopen : e.close = .ok e := by
        rw [Draft.close, hpending]
      have hnone : e.matcher.isNone = true := by
        rw [he.matcher]
        rfl
      simp only [bind, Except.bind, hnone, if_true, begin, hopen]
      rfl

/-- The second value opens the observations. -/
theorem positional_observation (d : Draft) (matcher : String) (a : Argument) :
  ∃ given, SameFlags given d.given ∧
    positional { d with pending := some (.matcher, [Argument.ofString matcher]) } a
      = .ok { d with
          given := given, matcher := some matcher, pending := some (.observations, [a]) }
  := by
  obtain ⟨given, hgiven, hclose⟩ := d.close_matcher matcher
  use given, hgiven
  simp only [positional, hclose]
  rfl

/-- All values from the second on are the observations. -/
theorem arguments_observations (s : Subcommand) (d : Draft) (before texts : List String) :
  ∃ given, SameFlags given d.given ∧
    arguments s { d with pending := some (.observations, before.map Argument.ofString) } true
        (texts.map Argument.ofString)
      = .ok { d with
          given := given, observations := d.observations ++ (before ++ texts), pending := none }
  := by
  induction texts generalizing before with
  | nil =>
    obtain ⟨given, hgiven, hclose⟩ := d.close_observations before
    use given, hgiven
    rw [List.map_nil, arguments, List.append_nil, hclose]
    rfl
  | cons text texts ih =>
    have h := ih (before ++ [text])
    rw [List.map_append, List.append_assoc] at h
    rw [List.map_cons, arguments, if_pos rfl]
    apply h

/-- The command of a draft in which nothing is open, with a matcher and observations. -/
def commandOn (d : Draft) (s : Subcommand) (matcher : String) (texts : List String) : Command :=
  let has (f : Flag) : Bool := d.given.contains (.flag f)
  ⟨s, matcher, has .json, texts, ⟨d.output, has .all, has .color, has .noColor⟩⟩

theorem command_eq (d : Draft) {given : List Parameter} (h : SameFlags given d.given)
    (s : Subcommand) (matcher : String) (texts : List String) :
  command s { d with
      given := given, matcher := some matcher, observations := texts, pending := none }
    = .ok (d.commandOn s matcher texts)
  := by
  have hflag (f : Flag) : given.contains (.flag f) = d.given.contains (.flag f) := h f
  simp only [command, commandOn, hflag]

/-- The values after the flags are the matcher and the observations of the command. -/
theorem OnlyFlags.command_of_values (h : d.OnlyFlags) (s : Subcommand) (matcher : String)
    (texts : List String) :
  (arguments s d true ((matcher :: texts).map Argument.ofString) >>= command s)
    = (orStop (.command s) d.close).map fun e => e.commandOn s matcher texts
  := by
  rw [List.map_cons, arguments, if_pos rfl, h.positional]
  cases hclose : d.close with
  | error f => rfl
  | ok e =>
    obtain ⟨he, hpending⟩ := h.close hclose
    have hobservations := he.observations
    simp only [orStop, Except.map, Except.mapError, bind, Except.bind]
    cases texts with
    | nil =>
      obtain ⟨given, hgiven, hmatcher⟩ := e.close_matcher matcher
      have hcommand := e.command_eq hgiven s matcher []
      rw [List.map_nil, arguments, hmatcher]
      simp only [orStop, Except.mapError, hobservations, hcommand]
    | cons text texts =>
      obtain ⟨given, hgiven, hpositional⟩ :=
        e.positional_observation matcher (Argument.ofString text)
      obtain ⟨given', hgiven', hread⟩ := arguments_observations s
        { e with given := given, matcher := some matcher } [text] texts
      dsimp only at hread
      rw [List.map_singleton, hobservations] at hread
      have hsame : SameFlags given' e.given := fun f => (hgiven' f).trans (hgiven f)
      rw [List.map_cons, arguments, if_pos rfl, hpositional]
      simp only [orStop, Except.mapError, bind, Except.bind, hobservations]
      rw [hread]
      apply e.command_eq hsame

end Draft

/-- The name of a command decides how the arguments after it are read. -/
theorem read_name (s : Subcommand) (args : List Argument) :
  read (.ofString s.name :: args) = (readCommand s args).map some
  := by
  have hscope : (Argument.ofString s.name).text?.bind scopeOfName? = some (.command s) := by
    cases s <;> decide
  unfold read
  simp only [hscope]

/-- A command line with flags before two hyphens, and values after them, is read as the command
of its flags with the first value as the matcher and the others as the observations. -/
theorem read_values (s : Subcommand) {flags : List Argument} (h : Flags flags) (matcher : String)
    (texts : List String) :
  read (.ofString s.name :: (flags ++ .ofString "--" :: (matcher :: texts).map .ofString))
    = (flags.foldlM (Draft.argument s) {} >>= fun d => orStop (.command s) d.close).map
        fun d => some (d.commandOn s matcher texts)
  := by
  have hempty : Draft.OnlyFlags {} := ⟨rfl, rfl, nofun⟩
  rw [read_name, readCommand, Draft.arguments_append h.shape_ne]
  cases hread : flags.foldlM (Draft.argument s) {} with
  | error stop => rfl
  | ok d =>
    have hvalues := (hempty.foldlM h hread).command_of_values s matcher texts
    have hterminator (rest : List Argument) :
        Draft.arguments s d false (.ofString "--" :: rest) = Draft.arguments s d true rest := rfl
    simp only [bind, Except.bind] at hvalues ⊢
    rw [hterminator, hvalues]
    cases orStop (.command s) d.close with
    | error stop => rfl
    | ok e => rfl

end MatchCriteria.CommandLine
