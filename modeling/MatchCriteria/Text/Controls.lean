/-!
# Text without controls

What a terminal would show of a text: control characters other than white space are left
out, and so are escape sequences.  A sequence starts with the escape character; one that
begins with `[` is ended by its first character from `@` on, and one that begins with `]` by
the bell.  One that begins with `X`, `^` or `_` is ended by the byte that terminates strings,
wherever in the encoding of a character it stands; one that begins with `P` has a header
before such a string.  Every sequence is ended by another escape character and by the two
characters that cancel.
-/

namespace MatchCriteria.Text

/-- Where in an escape sequence a character stands. -/
inductive SequenceState where
  /-- In none. -/
  | ground
  /-- After the escape character. -/
  | escape
  /-- After characters between the escape character and the one that ends the sequence. -/
  | intermediate
  /-- In a sequence that begins with `[`. -/
  | control
  /-- In a text that the bell ends. -/
  | command
  /-- At the start of the header of a text. -/
  | header
  /-- In the numbers of a header. -/
  | headerNumbers
  /-- In the marks that end a header. -/
  | headerMarks
  /-- In a text that the byte ends that terminates strings. -/
  | passage
  deriving DecidableEq, Repr

namespace SequenceState

/-- Whether a state leaves characters below the space their effect. -/
def executes : SequenceState → Bool
  | ground => true
  | escape => true
  | intermediate => true
  | control => true
  | _ => false

/-- The byte that terminates strings. -/
def terminator : UInt8 := 0x9C

/-- The state after a character beyond ASCII, of which the bytes are looked at one by one. -/
def nextWide (s : SequenceState) (c : Char) : SequenceState :=
  if s = passage && (String.utf8EncodeChar c).contains terminator then ground else s

/-- The state after a character. -/
def next (s : SequenceState) (c : Char) : SequenceState :=
  let n := c.toNat
  if n = 0x1B then escape
  else if n = 0x18 || n = 0x1A then ground
  else if n < 0x20 then
    if s = command && n = 0x07 then ground else s
  else if n = 0x7F then s
  else if 0x80 ≤ n then s.nextWide c
  else
    match s with
    | ground => ground
    | escape =>
      if n < 0x30 then intermediate
      else if c = '[' then control
      else if c = ']' then command
      else if c = 'P' then header
      else if c = 'X' || c = '^' || c = '_' then passage
      else ground
    | intermediate => if n < 0x30 then intermediate else ground
    | control => if n < 0x40 then control else ground
    | command => command
    | header => if n < 0x30 then headerMarks else if n < 0x40 then headerNumbers else passage
    | headerNumbers =>
      if n < 0x30 then headerMarks else if n < 0x3C then headerNumbers else passage
    | headerMarks => if n < 0x30 then headerMarks else passage
    | passage => passage

/-- Whether a character is shown. -/
def shows (s : SequenceState) (c : Char) : Bool :=
  if c = '\t' || c = '\n' || c = '\x0c' || c = '\r' then s.executes
  else s = ground && 0x20 ≤ c.toNat && c.toNat ≠ 0x7F

end SequenceState

/-- The characters that are shown of a text that starts in a state.  Once a character has
been shown, the ones after it are too, until there is one that is a control. -/
def shownFrom (showing : Bool) (s : SequenceState) : List Char → List Char
  | [] => []
  | c :: cs =>
    if showing && SequenceState.ground.shows c then
      c :: shownFrom true (if 0x80 ≤ c.toNat then .ground else s) cs
    else if s.shows c then c :: shownFrom true (s.next c) cs
    else shownFrom false (s.next c) cs

/-- The characters that are shown of a text. -/
def withoutControls (cs : List Char) : List Char := shownFrom false .ground cs

/-- A text of characters that show by themselves is shown as it is. -/
theorem withoutControls_eq_self (cs : List Char)
    (h : ∀ c ∈ cs, SequenceState.ground.shows c = true) :
  withoutControls cs = cs
  := by
  have next_ground (c : Char) (hc : SequenceState.ground.shows c = true) :
      SequenceState.ground.next c = .ground := by
    simp only [SequenceState.shows, SequenceState.next, SequenceState.nextWide] at hc ⊢
    split at hc
    · rename_i hw
      simp only [Bool.or_eq_true, decide_eq_true_eq] at hw
      rcases hw with ((rfl | rfl) | rfl) | rfl <;> decide
    · simp only [Bool.and_eq_true, decide_eq_true_eq] at hc
      have h1 : c.toNat ≠ 0x1B := by omega
      have h2 : c.toNat ≠ 0x18 := by omega
      have h3 : c.toNat ≠ 0x1A := by omega
      have h4 : ¬ c.toNat < 0x20 := by omega
      simp [h1, h2, h3, h4]
  have shown (showing : Bool) : shownFrom showing .ground cs = cs := by
    induction cs generalizing showing with
    | nil => rfl
    | cons c cs ih =>
      have hc := h c List.mem_cons_self
      have hcs := ih fun d hd => h d (List.mem_cons_of_mem c hd)
      simp [shownFrom, hc, next_ground c hc, hcs]
  exact shown false

end MatchCriteria.Text
