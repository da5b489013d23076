import MatchCriteria.Proofs.CommandLine.Writing

/-!
# Flags and the ways to write them

A flag without a value is written by its word, and the flag for the format in five ways, in one
argument or in two.  A draft in which the arguments of a flag have been read, once it is closed,
is the draft as it was, once it is closed, with the flag taken.
-/

namespace MatchCriteria.CommandLine

/-- A way to write the flag for the format and its value. -/
inductive Spelling where
  /-- The letter and the value apart. -/
  | letterApart
  /-- The value right behind the letter. -/
  | letterJoined
  /-- The letter, an equals sign and the value. -/
  | letterEquals
  /-- The word and the value apart. -/
  | wordApart
  /-- The word, an equals sign and the value. -/
  | wordEquals
  deriving DecidableEq, Repr

namespace Spelling

/-- The arguments for a value. -/
def written (value : String) : Spelling → List String
  | letterApart => ["-o", value]
  | letterJoined => ["-o" ++ value]
  | letterEquals => ["-o=" ++ value]
  | wordApart => ["--output", value]
  | wordEquals => ["--output=" ++ value]

/-- The value can be told from a flag where it stands alone, and from an equals sign where it stands
right behind the letter. -/
def Fits (value : String) : Spelling → Prop
  | letterApart => value.toList.head? ≠ some '-'
  | letterJoined => value ≠ "" ∧ value.toList.head? ≠ some '='
  | letterEquals => True
  | wordApart => value.toList.head? ≠ some '-'
  | wordEquals => True

/-- The name of a format can be written in each of the ways. -/
theorem fits_name (format : OutputFormat) (spelling : Spelling) :
  spelling.Fits format.name
  := by
  cases spelling with
  | letterApart | wordApart => cases format <;> exact ne_of_beq_false rfl
  | letterJoined => cases format <;> exact ⟨ne_of_beq_false rfl, ne_of_beq_false rfl⟩
  | letterEquals | wordEquals => trivial

end Spelling

/-- A flag as it is written. -/
inductive Choice where
  /-- A flag without a value. -/
  | switch (f : Flag) (h : f ∈ switches)
  /-- The flag for the format with a value. -/
  | format (spelling : Spelling) (value : String) (h : spelling.Fits value)

namespace Choice

/-- The flag. -/
def flag : Choice → Flag
  | switch f _ => f
  | format _ _ _ => .output

/-- The arguments of the flag. -/
def written : Choice → List String
  | switch f _ => [f.argument]
  | format spelling value _ => spelling.written value

/-- The values of the flag. -/
def values : Choice → List Argument
  | switch _ _ => []
  | format _ value _ => [.ofString value]

end Choice

theorem Argument.ofString_append (text text' : String) :
  ofString (text ++ text') = ofString text ++ ofString text'
  := by
  rw [ofString, String.toList_append, List.map_append]
  rfl

/-- What does not begin with a hyphen is a value. -/
theorem Argument.shape_ofString {text : String} (h : text.toList.head? ≠ some '-') :
  (ofString text).shape = .value
  := by
  rw [ofString]
  cases hcs : text.toList with
  | nil => rfl
  | cons c cs =>
    rw [hcs, List.head?_cons, Ne, Option.some.injEq] at h
    unfold shape
    split
    all_goals simp_all

/-- A value right behind a letter is the value of the flag. -/
theorem attachedValue?_ofString {value : String} (hne : value ≠ "")
    (hhead : value.toList.head? ≠ some '=') :
  attachedValue? (.ofString value) = some (.ofString value)
  := by
  rw [Argument.ofString]
  cases hcs : value.toList with
  | nil =>
    rw [String.toList_eq_nil_iff] at hcs
    cases hne hcs
  | cons c cs =>
    rw [hcs, List.head?_cons, Ne, Option.some.injEq] at hhead
    simp [attachedValue?, hhead]

namespace Draft

variable {d e : Draft}

/-! ### Marking -/

theorem mem_mark (d : Draft) (p q : Parameter) :
  q ∈ (d.mark p).given ↔ q ∈ d.given ∨ q = p
  := by
  unfold mark
  split
  · rename_i hmem
    rw [or_iff_left_of_imp]
    rintro rfl
    apply hmem
  · rw [List.mem_append, List.mem_singleton]

@[simp]
theorem output_mark (d : Draft) (p : Parameter) :
  (d.mark p).output = d.output
  := by
  unfold mark
  split <;> rfl

@[simp]
theorem matcher_mark (d : Draft) (p : Parameter) :
  (d.mark p).matcher = d.matcher
  := by
  unfold mark
  split <;> rfl

@[simp]
theorem observations_mark (d : Draft) (p : Parameter) :
  (d.mark p).observations = d.observations
  := by
  unfold mark
  split <;> rfl

@[simp]
theorem pending_mark (d : Draft) (p : Parameter) :
  (d.mark p).pending = d.pending
  := by
  unfold mark
  split <;> rfl

/-! ### Closing -/

/-- What takes effect opens nothing. -/
theorem pending_take {p : Parameter} {values : List Argument} (h : d.take p values = .ok e) :
  e.pending = d.pending
  := by
  cases p with
  | flag f =>
    obtain ⟨given, output, rfl⟩ := take_flag_eq h
    rfl
  | matcher =>
    obtain ⟨texts, -, h⟩ := exists_of_bind_eq_ok h
    cases h
    apply pending_mark
  | observations =>
    obtain ⟨texts, -, h⟩ := exists_of_bind_eq_ok h
    cases h
    apply pending_mark

theorem pending_close (h : d.close = .ok e) :
  e.pending = none
  := by
  rw [close] at h
  split at h
  · rename_i hpending
    cases h
    apply hpending
  · apply pending_take h

theorem close_of_pending (h : d.pending = none) :
  d.close = .ok d
  := by
  rw [close, h]

/-- A draft in which a parameter has been opened and closed has nothing left to close. -/
theorem put_close (d : Draft) (p : Parameter) (values : List Argument) :
  (d.put p values >>= close) = d.put p values
  := by
  cases h : d.put p values with
  | error f => rfl
  | ok e =>
    obtain ⟨c, hclose, htake⟩ := exists_of_bind_eq_ok h
    apply close_of_pending
    rw [pending_take htake, pending_close hclose]

/-- A parameter that is opened takes effect when it is closed. -/
theorem begin_close (d : Draft) (p : Parameter) (values : List Argument) :
  (d.begin p values >>= close) = d.put p values
  := by
  rw [begin, put]
  cases h : d.close with
  | error f => rfl
  | ok c =>
    have hc : { c with pending := none } = c := by
      rw [← pending_close h]
    simp only [bind, Except.bind, pure, Except.pure, close, hc]

/-! ### Reading -/

/-- A flag and its value in two arguments are a flag that is open. -/
theorem foldlM_apart {a : Argument} {s : Subcommand}
    (ha : ∀ d, argument s d a = d.flag s .output none) {value : String}
    (hvalue : value.toList.head? ≠ some '-') (d : Draft) :
  [a, .ofString value].foldlM (argument s) d
    = orStop (.command s) (d.begin (.flag .output) [.ofString value])
  := by
  have hopen (e : Draft) :
      argument s { e with pending := some (.flag .output, []) } (.ofString value)
        = .ok { e with pending := some (.flag .output, [.ofString value]) } := by
    rw [argument, Argument.shape_ofString hvalue]
    rfl
  rw [List.foldlM_cons, ha, flag, begin, begin]
  cases d.close with
  | error f => rfl
  | ok e =>
    simp only [orStop, Except.mapError, bind, Except.bind, pure, Except.pure, List.foldlM_cons,
      List.foldlM_nil, hopen]

/-- The arguments of a flag open it, with its value, or open and close it. -/
theorem foldlM_choice (s : Subcommand) (d : Draft) (c : Choice) :
  (c.written.map .ofString).foldlM (argument s) d
      = orStop (.command s) (d.put (.flag c.flag) c.values) ∨
    c.values ≠ [] ∧
      (c.written.map .ofString).foldlM (argument s) d
        = orStop (.command s) (d.begin (.flag c.flag) c.values)
  := by
  cases c with
  | switch f h =>
    apply Or.inl
    rw [Choice.written, List.map_singleton, foldlM_singleton]
    simp only [switches, List.mem_cons, List.not_mem_nil, or_false] at h
    rcases h with rfl | rfl | rfl | rfl <;> cases s <;> rfl
  | format spelling value h =>
    cases spelling with
    | letterApart | wordApart =>
      apply Or.inr
      exact ⟨List.cons_ne_nil _ _, foldlM_apart (by cases s <;> exact fun _ => rfl) h d⟩
    | letterJoined =>
      apply Or.inl
      have hflag : d.argument s (.ofString ("-o" ++ value))
          = d.flag s .output (attachedValue? (.ofString value)) := by
        rw [Argument.ofString_append]
        cases s <;> rfl
      rw [Choice.written, Spelling.written, List.map_singleton, foldlM_singleton, hflag,
        attachedValue?_ofString h.1 h.2]
      rfl
    | letterEquals | wordEquals =>
      apply Or.inl
      rw [Choice.written, Spelling.written, List.map_singleton, foldlM_singleton,
        Argument.ofString_append]
      cases s <;> rfl

end Draft

/-- None of the arguments of a flag is the two hyphens behind which there are only values. -/
theorem Choice.shape_ne (c : Choice) :
  ∀ a ∈ c.written.map Argument.ofString, a.shape ≠ .terminator
  := by
  cases c with
  | switch f h =>
    simp only [written, List.map_singleton, List.mem_singleton, forall_eq]
    apply f.isFlag_argument.shape_ne
  | format spelling value h =>
    cases spelling with
    | letterApart | wordApart =>
      simp only [written, Spelling.written, List.map_cons, List.map_nil, List.forall_mem_cons,
        Argument.shape_ofString h]
      exact ⟨nofun, nofun, nofun⟩
    | letterJoined | letterEquals | wordEquals =>
      simp only [written, Spelling.written, List.map_singleton, List.mem_singleton, forall_eq,
        Argument.ofString_append]
      nofun

end MatchCriteria.CommandLine
