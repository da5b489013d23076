import MatchCriteria.Proofs.Json.RoundTrip

/-!
# Values over several lines are read back

The blanks before an item, a member or a closing bracket do not matter to a reader.  Hence a
value without a fraction that does not nest too deeply is read back from its text over several
lines, and so is a whole text that has only blanks after the value.
-/

namespace MatchCriteria.Json

/-- The text consists of blanks. -/
def Blank (cs : List Char) : Prop := ∀ c ∈ cs, isBlank c = true

theorem skipBlank_blank {blanks : List Char} (h : Blank blanks) (cs : List Char) :
  skipBlank (blanks ++ cs) = skipBlank cs
  := List.dropWhile_append_of_pos h

theorem blank_newLine (depth : Nat) :
  Blank (newLine depth)
  := by
  intro c hc
  rcases List.mem_cons.mp hc with rfl | hc
  · decide
  · rw [List.eq_of_mem_replicate hc]
    decide

theorem Blank.ends {rest : List Char} (h : Blank rest) :
  Ends rest
  := by
  intro c hc
  apply Or.inl (h c (List.mem_of_mem_head? hc))

/-- A text is read behind blanks. -/
theorem Reads.blank {ε α : Type} {reader : List Char → Except ε (α × List Char)}
    {text : List Char} {x : α} (h : Reads reader text x) {blanks : List Char}
    (hblanks : Blank blanks) :
  Reads reader (blanks ++ text) x
  := by
  constructor
  · rw [skipBlank_blank hblanks]
    apply h.starts
  · intro rest hrest
    rw [List.append_assoc, skipBlank_blank hblanks]
    apply h.reads rest hrest

/-- A member is read behind blanks. -/
theorem ReadsMember.blank {value : Reader Value} {text : List Char} {m : String × Value}
    (h : ReadsMember value text m) {blanks : List Char} (hblanks : Blank blanks) :
  ReadsMember value (blanks ++ text) m
  := by
  constructor
  rw [skipBlank_blank hblanks]
  apply h.starts

/-! ### Texts over several lines -/

/-- An item on a line of its own. -/
def prettyItem (indent : Nat) (v : Value) : List Char := newLine indent ++ pretty indent v

/-- A member on a line of its own. -/
def prettyMember (indent : Nat) (m : String × Value) : List Char :=
  newLine indent ++ (quote m.1 ++ ':' :: ([' '] ++ pretty indent m.2))

theorem prettyItems_eq_joined (indent : Nat) (xs : List Value) :
  prettyItems indent xs = joined (xs.map (prettyItem indent))
  := by
  cases xs with
  | nil => rfl
  | cons v xs =>
    rw [List.map_cons, joined]
    induction xs generalizing v with
    | nil =>
      rw [prettyItems, List.map_nil, continued, List.flatMap_nil, List.append_nil]
      rfl
    | cons w xs ih =>
      rw [prettyItems, ih, List.map_cons, continued, continued, List.flatMap_cons, prettyItem]
      · rfl
      · apply List.cons_ne_nil

theorem prettyMembers_eq_joined (indent : Nat) (ms : List (String × Value)) :
  prettyMembers indent ms = joined (ms.map (prettyMember indent))
  := by
  cases ms with
  | nil => rfl
  | cons m ms =>
    rw [List.map_cons, joined]
    induction ms generalizing m with
    | nil =>
      rw [prettyMembers, List.map_nil, continued, List.flatMap_nil, List.append_nil]
      simp only [prettyMember, List.append_assoc, List.cons_append, List.nil_append]
    | cons n ms ih =>
      rw [prettyMembers, ih, List.map_cons, continued, continued, List.flatMap_cons]
      · simp only [prettyMember, List.append_assoc, List.cons_append, List.nil_append]
      · apply List.cons_ne_nil

/-- The bracket or brace on the line that closes a value is found behind its blanks. -/
theorem skipBlank_newLine (indent : Nat) {c : Char} (hc : isBlank c = false)
    (rest : List Char) :
  skipBlank (newLine indent ++ [c] ++ rest) = c :: rest
  := by
  rw [List.append_assoc, skipBlank_blank (blank_newLine indent)]
  apply skipBlank_cons hc

/-- A value without a fraction is read back from its text over several lines. -/
theorem Exact.reads_pretty {depth : Nat} {v : Value} (h : Exact depth v) (indent : Nat) :
  Reads (value depth) (pretty indent v) v
  := by
  induction h generalizing indent with
  | null => apply reads_null
  | boolean b => apply reads_boolean
  | integer n => apply reads_integer
  | string s => apply reads_quote
  | @array depth xs _ ih =>
    have hitem : ∀ v ∈ xs, Reads (value depth) (prettyItem (indent + 1) v) v := by
      intro v hv
      apply (ih v hv (indent + 1)).blank (blank_newLine _)
    cases xs with
    | nil => exact reads_array hitem (skipBlank_cons (c := ']') (by decide))
    | cons v xs =>
      rw [pretty, prettyItems_eq_joined, List.cons_append, List.cons_append, List.append_assoc]
      apply reads_array hitem (skipBlank_newLine indent (by decide))
  | @object depth ms _ ih =>
    have hblank : Blank [' '] := by
      simp [Blank, isBlank]
    have hmember : ∀ m ∈ ms, ReadsMember (value depth) (prettyMember (indent + 1) m) m := by
      intro m hm
      have hvalue := (ih m hm (indent + 1)).blank hblank
      apply (readsMember_quote hvalue).blank (blank_newLine _)
    cases ms with
    | nil => exact reads_object hmember (skipBlank_cons (c := '\x7d') (by decide))
    | cons m ms =>
      rw [pretty, prettyMembers_eq_joined, List.cons_append, List.cons_append, List.append_assoc]
      apply reads_object hmember (skipBlank_newLine indent (by decide))

/-- A whole text is the value that stands in it before blanks. -/
theorem read_of_reads {text : List Char} {v : Value} (h : Reads (value depthLimit) text v)
    {blanks : List Char} (hblanks : Blank blanks) :
  read (String.ofList (text ++ blanks)) = .ok v
  := by
  have hread := h.reads blanks hblanks.ends
  rw [value_skipBlank] at hread
  have hend : skipBlank blanks = [] := List.dropWhile_eq_nil_iff.mpr hblanks
  rw [read, String.toList_ofList]
  simp only [hread, finish, hend]

/-- A text over several lines, with the end of the last one, is the value that it was made
from. -/
theorem read_renderPretty {v : Value} (h : Exact depthLimit v) :
  read (renderPretty v ++ "\n") = .ok v
  := by
  have htext : renderPretty v ++ "\n" = String.ofList (pretty 0 v ++ ['\n']) := by
    rw [renderPretty, String.ofList_append]
  rw [htext]
  apply read_of_reads (h.reads_pretty 0)
  simp [Blank, isBlank]

end MatchCriteria.Json
