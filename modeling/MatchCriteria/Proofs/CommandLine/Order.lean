import MatchCriteria.Proofs.CommandLine.Spelling

/-!
# Flags among values

The flags of a command may stand anywhere among its values, as long as these do not look like
flags, or stand behind two hyphens.  Each part of a command line takes effect in its turn, and
flags and values do not disturb each other.  Hence a command line is read as the command that it
was written for, in whatever order and with whatever spellings it was written.
-/

namespace MatchCriteria.CommandLine

/-- A part of a command line. -/
inductive Part where
  /-- A flag, with its value. -/
  | choice (c : Choice)
  /-- The matcher or an observation. -/
  | value (text : String)

namespace Part

/-- The arguments of a part. -/
def written : Part → List String
  | choice c => c.written
  | value text => [text]

/-- A value does not begin with a hyphen. -/
def IsPlain : Part → Prop
  | choice _ => True
  | value text => text.toList.head? ≠ some '-'

/-- No argument of a plain part is the two hyphens behind which there are only values. -/
theorem IsPlain.shape_ne {p : Part} (h : p.IsPlain) :
  ∀ a ∈ p.written.map Argument.ofString, a.shape ≠ .terminator
  := by
  cases p with
  | choice c => apply c.shape_ne
  | value text =>
    simp only [written, List.map_singleton, List.mem_singleton, forall_eq,
      Argument.shape_ofString h]
    nofun

end Part

namespace Draft

variable {d : Draft}

/-- A draft in which a value that belongs to no flag has taken effect. -/
def takeValue (d : Draft) (a : Argument) : Except Fault Draft :=
  d.take (if d.matcher.isNone then .matcher else .observations) [a]

/-- A draft in which a part of a command line has taken effect. -/
def takePart (d : Draft) : Part → Except Fault Draft
  | .choice c => d.take (.flag c.flag) c.values
  | .value text => d.takeValue (.ofString text)

/-- The next argument may be a part of a command line: no flag waits for a value, and observations
are open only behind a matcher. -/
structure Ready (d : Draft) : Prop where
  awaits : d.awaitsValue = false
  observed : ∀ values, d.pending = some (.observations, values) → d.matcher.isNone = false

/-! ### Values -/

theorem matcher_take_observations {e : Draft} {values : List Argument}
    (h : d.take .observations values = .ok e) :
  e.matcher = d.matcher
  := by
  obtain ⟨texts, -, h⟩ := exists_of_bind_eq_ok h
  cases h
  apply matcher_mark

/-- Observations take effect one after the other. -/
theorem take_observations_append (d : Draft) (before after : List Argument) :
  d.take .observations (before ++ after)
    = d.take .observations before >>= fun e => e.take .observations after
  := by
  simp only [take, List.mapM_append]
  cases before.mapM textOf with
  | error f => rfl
  | ok texts =>
    cases after.mapM textOf with
    | error f => rfl
    | ok more =>
      have hmark : mark { d.mark .observations with observations := d.observations ++ texts }
            .observations
          = { d.mark .observations with observations := d.observations ++ texts } :=
        if_pos ((d.mem_mark .observations .observations).mpr (Or.inr rfl))
      simp only [bind, Except.bind, pure, Except.pure, hmark, List.append_assoc]

/-- The first text that belongs to no flag is the matcher. -/
theorem takeValue_matcher (h : d.matcher = none) (text : String) :
  d.takeValue (.ofString text) = .ok { d.mark .matcher with matcher := some text }
  := by
  have htexts := mapM_textOf [text]
  rw [List.map_singleton] at htexts
  rw [takeValue, h, Option.isNone_none, if_pos rfl, take, htexts]
  rfl

/-- What belongs to no flag behind the matcher is an observation. -/
theorem takeValue_observation {matcher : String} (h : d.matcher = some matcher) (a : Argument) :
  d.takeValue a = d.take .observations [a]
  := by
  rw [takeValue, h]
  rfl

/-- A value takes effect when it is closed. -/
theorem positional_close (h : d.Ready) (a : Argument) :
  (d.positional a >>= close) = d.close >>= fun e => e.takeValue a
  := by
  unfold positional
  split
  -- Observations that are open take the value, and take effect together with it.
  · rename_i values hpending
    have hvalue {e : Draft} (he : take { d with pending := none } .observations values = .ok e) :
        e.takeValue a = e.take .observations [a] := by
      rw [takeValue, matcher_take_observations he, h.observed values hpending]
      rfl
    have hclose : d.close = take { d with pending := none } .observations values := by
      rw [close, hpending]
    have happend := take_observations_append { d with pending := none } values [a]
    rw [hclose]
    cases he : take { d with pending := none } .observations values with
    | error f =>
      rw [he] at happend
      exact happend
    | ok e =>
      rw [he] at happend
      exact happend.trans (hvalue he).symm
  -- Anything else takes effect before the value is opened.
  · rw [bind_assoc]
    cases he : d.close with
    | error f => rfl
    | ok e =>
      have hput := e.begin_close (if e.matcher.isNone then .matcher else .observations) [a]
      rw [put, close_of_pending (pending_close he)] at hput
      exact hput

theorem ready_positional {e : Draft} (h : d.Ready) {a : Argument}
    (he : d.positional a = .ok e) :
  e.Ready
  := by
  unfold positional at he
  split at he
  · rename_i values hpending
    cases he
    refine ⟨decide_eq_false nofun, ?_⟩
    intro _ _
    apply h.observed values hpending
  · obtain ⟨c, hclose, hbegin⟩ := exists_of_bind_eq_ok he
    rw [begin, close_of_pending (pending_close hclose)] at hbegin
    cases hbegin
    constructor
    · simp [awaitsValue]
    · intro values hpending
      cases hmatcher : c.matcher.isNone with
      | false => rfl
      | true =>
        rw [hmatcher] at hpending
        cases hpending

/-! ### Parts -/

variable {s : Subcommand}

/-- What does not begin with a hyphen is a value of the command. -/
theorem Ready.argument_eq (h : d.Ready) {text : String} (htext : text.toList.head? ≠ some '-') :
  d.argument s (.ofString text) = orStop (.command s) (d.positional (.ofString text))
  := by
  rw [argument, Argument.shape_ofString htext]
  simp only [h.awaits]
  rfl

/-- A part takes effect when it is closed. -/
theorem foldlM_part_close {p : Part} (hp : p.IsPlain) (h : d.Ready) :
  ((p.written.map .ofString).foldlM (argument s) d >>= fun e => orStop (.command s) e.close)
    = orStop (.command s) (d.close >>= fun e => e.takePart p)
  := by
  cases p with
  | choice c =>
    have hput : (d.close >>= fun e => e.takePart (.choice c)) = d.put (.flag c.flag) c.values := rfl
    rw [Part.written, hput]
    rcases foldlM_choice s d c with hc | ⟨-, hc⟩
    · rw [hc, ← orStop_bind, put_close]
    · rw [hc, ← orStop_bind, begin_close]
  | value text =>
    rw [Part.written, List.map_singleton, foldlM_singleton, h.argument_eq hp, ← orStop_bind,
      positional_close h]
    rfl

theorem ready_foldlM_part {p : Part} (hp : p.IsPlain) (h : d.Ready) {e : Draft}
    (he : (p.written.map .ofString).foldlM (argument s) d = .ok e) :
  e.Ready
  := by
  cases p with
  | choice c =>
    rw [Part.written] at he
    rcases foldlM_choice s d c with hc | ⟨hvalues, hc⟩
    · rw [hc, orStop_eq_ok_iff] at he
      obtain ⟨closed, hclose, htake⟩ := exists_of_bind_eq_ok he
      have hpending := (pending_take htake).trans (pending_close hclose)
      constructor
      · rw [awaitsValue, hpending]
        rfl
      · rw [hpending]
        nofun
    · rw [hc, orStop_eq_ok_iff] at he
      obtain ⟨closed, hclose, hbegin⟩ := exists_of_bind_eq_ok he
      cases hbegin
      constructor
      · simp [awaitsValue, hvalues]
      · nofun
  | value text =>
    rw [Part.written, List.map_singleton, foldlM_singleton, h.argument_eq hp, orStop_eq_ok_iff] at he
    apply ready_positional h he

/-! ### Lines -/

/-- A draft need not be closed before what closes it. -/
theorem bind_of_close {α : Type} {scope : Scope} {r : Except Stop Draft}
    {t : Except Fault Draft} {f : Draft → Except Stop α} {g : Draft → Except Fault α}
    (hr : (r >>= fun e => orStop scope e.close) = orStop scope t)
    (hf : ∀ e, r = .ok e → f e = orStop scope (e.close >>= g)) :
  (r >>= f) = orStop scope (t >>= g)
  := by
  rw [orStop_bind, ← hr]
  cases r with
  | error stop => rfl
  | ok e => exact (hf e rfl).trans (orStop_bind scope e.close g)

/-- Behind two hyphens the values take effect in turn. -/
theorem arguments_values (h : d.Ready) (values : List Argument) :
  arguments s d true values
    = orStop (.command s) (d.close >>= fun e => values.foldlM takeValue e)
  := by
  induction values generalizing d with
  | nil =>
    rw [arguments]
    cases d.close <;> rfl
  | cons a values ih =>
    simp only [arguments, if_true, List.foldlM_cons]
    rw [← bind_assoc]
    apply bind_of_close
    · rw [← orStop_bind, positional_close h]
    · intro e he
      apply ih (ready_positional h ((orStop_eq_ok_iff _ _ _).mp he))

/-- The arguments for the values behind two hyphens, where there are two hyphens. -/
def closing : Option (List Argument) → List Argument
  | none => []
  | some values => .ofString "--" :: values

theorem arguments_closing (h : d.Ready) (tail : Option (List Argument)) :
  arguments s d false (closing tail)
    = orStop (.command s) (d.close >>= fun e => (tail.getD []).foldlM takeValue e)
  := by
  cases tail with
  | none =>
    rw [closing, arguments]
    cases d.close <;> rfl
  | some values => exact arguments_values h values

/-- The parts of a command line, and the values behind them, take effect in turn. -/
theorem arguments_parts {parts : List Part} (hparts : ∀ p ∈ parts, p.IsPlain) (h : d.Ready)
    (tail : Option (List Argument)) :
  arguments s d false ((parts.flatMap Part.written).map .ofString ++ closing tail)
    = orStop (.command s) (d.close >>= fun e => parts.foldlM takePart e
        >>= fun e => (tail.getD []).foldlM takeValue e)
  := by
  induction parts generalizing d with
  | nil => exact arguments_closing h tail
  | cons p parts ih =>
    rw [List.forall_mem_cons] at hparts
    simp only [List.flatMap_cons, List.map_append, List.append_assoc, List.foldlM_cons,
      bind_assoc]
    rw [arguments_append hparts.1.shape_ne, ← bind_assoc]
    apply bind_of_close (foldlM_part_close hparts.1 h)
    intro e he
    apply ih hparts.2 (ready_foldlM_part hparts.1 h he)

end Draft

/-- The command of parts and values that take effect in turn. -/
def commandOf (s : Subcommand) (parts : List Part) (values : List Argument) :
    Except Stop Command :=
  orStop (.command s) (parts.foldlM Draft.takePart {} >>= fun d =>
    values.foldlM Draft.takeValue d) >>= Draft.command s

/-- A command line is read as the command of its parts and values. -/
theorem read_parts (s : Subcommand) {parts : List Part} (hparts : ∀ p ∈ parts, p.IsPlain)
    (tail : Option (List Argument)) :
  read (.ofString s.name :: ((parts.flatMap Part.written).map .ofString ++ Draft.closing tail))
    = (commandOf s parts (tail.getD [])).map some
  := by
  have hready : Draft.Ready {} := ⟨rfl, nofun⟩
  rw [read_name, readCommand, Draft.arguments_parts hparts hready]
  rfl

end MatchCriteria.CommandLine
