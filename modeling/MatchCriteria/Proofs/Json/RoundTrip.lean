import MatchCriteria.Proofs.Json.Parts

/-!
# Values are read back

A value without a fraction that does not nest too deeply is read back from its text on one
line.  Hence a list of things that are encoded as such values is read back item by item.
-/

namespace MatchCriteria.Json

/-- A value without a fraction, in which arrays and objects nest at most `depth` deep. -/
inductive Exact : Nat → Value → Prop where
  | null {depth : Nat} : Exact depth .null
  | boolean {depth : Nat} (b : Bool) : Exact depth (.boolean b)
  | integer {depth : Nat} (n : Integer) : Exact depth (.integer n)
  | string {depth : Nat} (s : String) : Exact depth (.string s)
  | array {depth : Nat} {xs : List Value} (h : ∀ v ∈ xs, Exact depth v) :
    Exact (depth + 1) (.array xs)
  | object {depth : Nat} {ms : List (String × Value)} (h : ∀ m ∈ ms, Exact depth m.2) :
    Exact (depth + 1) (.object ms)

/-! ### Readers of values -/

theorem valueBy_skipBlank (array : Reader (List Value))
    (object : Reader (List (String × Value))) (cs : List Char) :
  valueBy array object (skipBlank cs) = valueBy array object cs
  := by
  have h : skipBlank (skipBlank cs) = skipBlank cs := List.dropWhile_idempotent isBlank cs
  rw [valueBy, h]
  rfl

/-- At every depth the values without parts are read in the same way. -/
theorem exists_valueBy (depth : Nat) :
  ∃ array object, value depth = valueBy array object
  := by
  cases depth with
  | zero => exact ⟨_, _, rfl⟩
  | succ depth => exact ⟨_, _, rfl⟩

/-- Blanks before a value do not matter. -/
theorem value_skipBlank (depth : Nat) (cs : List Char) :
  value depth (skipBlank cs) = value depth cs
  := by
  obtain ⟨array, object, hvalue⟩ := exists_valueBy depth
  rw [hvalue]
  apply valueBy_skipBlank

theorem reads_of_cons {ε α : Type} {reader : List Char → Except ε (α × List Char)} {c : Char}
    {cs : List Char} {x : α} (hblank : isBlank c = false) (hc : c ≠ ']')
    (h : ∀ rest, Ends rest → reader (c :: cs ++ rest) = .ok (x, rest)) :
  Reads reader (c :: cs) x
  := by
  constructor
  · use c, cs
    apply And.intro (skipBlank_cons hblank cs) hc
  · intro rest hrest
    rw [List.cons_append, skipBlank_cons hblank]
    apply h rest hrest

/-- What is read in the same way at every depth is read at this one. -/
theorem reads_of_valueBy (depth : Nat) {c : Char} {cs : List Char} {v : Value}
    (hblank : isBlank c = false) (hc : c ≠ ']')
    (h : ∀ array object rest, valueBy array object (c :: cs ++ rest) = .ok (v, rest)) :
  Reads (value depth) (c :: cs) v
  := by
  apply reads_of_cons hblank hc
  intro rest _
  obtain ⟨array, object, hvalue⟩ := exists_valueBy depth
  rw [hvalue]
  apply h

theorem value_string (depth : Nat) {s : String} {cs rest : List Char}
    (h : string cs = .ok (s, rest)) :
  value depth ('"' :: cs) = .ok (.string s, rest)
  := by
  obtain ⟨array, object, hvalue⟩ := exists_valueBy depth
  rw [hvalue, valueBy, skipBlank_cons (by decide)]
  simp only [h, bind, Except.bind]
  rfl

theorem value_minus (depth : Nat) (cs : List Char) :
  value depth ('-' :: cs) = number true cs
  := by
  obtain ⟨array, object, hvalue⟩ := exists_valueBy depth
  rw [hvalue, valueBy, skipBlank_cons (by decide)]
  rfl

theorem isBlank_of_isDigit {c : Char} (h : isDigit c = true) :
  isBlank c = false
  := by
  have row : [' ', '\n', '\t', '\r'].all (fun c => !isDigit c) = true := by decide
  rw [← Bool.not_eq_true, isBlank_iff]
  intro hblank
  have hc := List.all_eq_true.mp row c hblank
  rw [h] at hc
  cases hc

theorem value_digit (depth : Nat) {c : Char} (h : isDigit c = true) (cs : List Char) :
  value depth (c :: cs) = number false (c :: cs)
  := by
  obtain ⟨array, object, hvalue⟩ := exists_valueBy depth
  rw [hvalue, valueBy, skipBlank_cons (isBlank_of_isDigit h)]
  split
  case h_9 heq =>
    cases heq
    apply if_pos h
  all_goals
    rename_i heq
    cases heq
  all_goals cases h

theorem value_array {depth : Nat} {cs rest : List Char} {xs : List Value}
    (h : array id (value depth) cs = .ok (xs, rest)) :
  value (depth + 1) ('[' :: cs) = .ok (.array xs, rest)
  := by
  rw [value, valueBy, skipBlank_cons (by decide)]
  simp only [h, bind, Except.bind]
  rfl

theorem value_object {depth : Nat} {cs rest : List Char} {ms : List (String × Value)}
    (h : object (value depth) cs = .ok (ms, rest)) :
  value (depth + 1) ('\x7b' :: cs) = .ok (.object ms, rest)
  := by
  rw [value, valueBy, skipBlank_cons (by decide)]
  simp only [h, bind, Except.bind]
  rfl

/-! ### Texts of values -/

/-- A member as it stands on one line. -/
def compactMember (m : String × Value) : List Char := quote m.1 ++ ':' :: compact m.2

theorem compactItems_eq_joined (xs : List Value) :
  compactItems xs = joined (xs.map compact)
  := by
  cases xs with
  | nil => rfl
  | cons v xs =>
    rw [List.map_cons, joined]
    induction xs generalizing v with
    | nil =>
      rw [compactItems, List.map_nil, continued, List.flatMap_nil, List.append_nil]
    | cons w xs ih =>
      rw [compactItems, ih, List.map_cons, continued, continued, List.flatMap_cons]
      · rfl
      · apply List.cons_ne_nil

theorem compactMembers_eq_joined (ms : List (String × Value)) :
  compactMembers ms = joined (ms.map compactMember)
  := by
  cases ms with
  | nil => rfl
  | cons m ms =>
    rw [List.map_cons, joined]
    induction ms generalizing m with
    | nil =>
      rw [compactMembers, List.map_nil, continued, List.flatMap_nil, List.append_nil]
      rfl
    | cons n ms ih =>
      rw [compactMembers, ih, List.map_cons, continued, continued, List.flatMap_cons,
        compactMember]
      · rfl
      · apply List.cons_ne_nil

/-- A string is read in whatever way its characters are spelled. -/
theorem reads_spelled (depth : Nat) {s : String} {text : List Char}
    (h : SpelledText s.toList text) :
  Reads (value depth) ('"' :: (text ++ ['"'])) (.string s)
  := by
  apply reads_of_cons (by decide) (by decide)
  intro rest _
  rw [List.cons_append, List.append_assoc]
  apply value_string
  apply string_spelledText h

theorem reads_quote (depth : Nat) (s : String) :
  Reads (value depth) (quote s) (.string s)
  := by
  apply reads_spelled depth (spelledText_flatMap s.toList)

/-- The text of an integer is its digits, with a sign before them if it is negative. -/
theorem toList_toString (n : Int) :
  (toString n).toList
    = if n < 0 then '-' :: Nat.toDigits 10 n.natAbs else Nat.toDigits 10 n.natAbs
  := by
  rw [Int.toString_eq_repr, Int.repr_eq_if]
  split
  · rw [if_neg (by omega), Nat.toList_repr]
    congr
    omega
  · rw [if_pos (by omega), String.toList_append, Nat.toList_repr]
    have habs : (-n).toNat = n.natAbs := by omega
    rw [habs]
    rfl

theorem reads_integer (depth : Nat) (n : Integer) :
  Reads (value depth) (toString n.val).toList (.integer n)
  := by
  rw [toList_toString]
  split
  · apply reads_of_cons (by decide) (by decide)
    intro rest hrest
    rw [List.cons_append, value_minus]
    apply number_toDigits _ _ hrest.endsNumber
    · rw [if_pos rfl]
      omega
    · omega
  · obtain ⟨c, cs, hcs⟩ := List.exists_cons_of_ne_nil (@Nat.toDigits_ne_nil n.val.natAbs 10)
    have hmem : c ∈ Nat.toDigits 10 n.val.natAbs := by
      rw [hcs]
      apply List.mem_cons_self
    have hc : isDigit c = true := Nat.isDigit_of_mem_toDigits (by decide) (by decide) hmem
    rw [hcs]
    apply reads_of_cons (isBlank_of_isDigit hc) (by rintro rfl; cases hc)
    intro rest hrest
    rw [List.cons_append, value_digit depth hc, ← List.cons_append, ← hcs]
    apply number_toDigits _ _ hrest.endsNumber
    · rw [if_neg Bool.false_ne_true]
      omega
    · rintro ⟨h, -⟩
      cases h

/-- A member is read from its name, a colon and the text of its value. -/
theorem readsMember_quote {depth : Nat} {m : String × Value} {described : List Char}
    (h : Reads (value depth) described m.2) :
  ReadsMember (value depth) (quote m.1 ++ ':' :: described) m
  := by
  use m.1.toList.flatMap stringChar, described
  refine ⟨?_, spelledText_flatMap m.1.toList, ?_⟩
  · rw [quote, List.cons_append, List.cons_append, skipBlank_cons (by decide),
      List.append_assoc]
    rfl
  · intro rest hrest
    rw [← value_skipBlank]
    apply h.reads rest hrest

theorem reads_null (depth : Nat) :
  Reads (value depth) (atom .null) .null
  := by
  apply reads_of_valueBy depth (by decide) (by decide)
  intro array object rest
  rfl

theorem reads_boolean (depth : Nat) (b : Bool) :
  Reads (value depth) (atom (.boolean b)) (.boolean b)
  := by
  cases b with
  | true =>
    apply reads_of_valueBy depth (by decide) (by decide)
    intro array object rest
    rfl
  | false =>
    apply reads_of_valueBy depth (by decide) (by decide)
    intro array object rest
    rfl

/-- An array is read from the texts of its items, whatever blanks stand before its bracket. -/
theorem reads_array {depth : Nat} {xs : List Value} {text : Value → List Char}
    (h : ∀ v ∈ xs, Reads (value depth) (text v) v) {close : List Char}
    (hclose : ∀ rest, skipBlank (close ++ rest) = ']' :: rest) :
  Reads (value (depth + 1)) ('[' :: (joined (xs.map text) ++ close)) (.array xs)
  := by
  have hitems : List.Forall₂ (Reads (value depth)) (xs.map text) xs := by
    rw [List.forall₂_map_left_iff, List.forall₂_same]
    apply h
  apply reads_of_cons (by decide) (by decide)
  intro rest _
  rw [List.cons_append, List.append_assoc]
  apply value_array
  apply array_joined id hitems (hclose rest)

/-- An object is read from the texts of its members, whatever blanks stand before its brace. -/
theorem reads_object {depth : Nat} {ms : List (String × Value)}
    {text : String × Value → List Char}
    (h : ∀ m ∈ ms, ReadsMember (value depth) (text m) m) {close : List Char}
    (hclose : ∀ rest, skipBlank (close ++ rest) = '\x7d' :: rest) :
  Reads (value (depth + 1)) ('\x7b' :: (joined (ms.map text) ++ close)) (.object ms)
  := by
  have hmembers : List.Forall₂ (ReadsMember (value depth)) (ms.map text) ms := by
    rw [List.forall₂_map_left_iff, List.forall₂_same]
    apply h
  apply reads_of_cons (by decide) (by decide)
  intro rest _
  rw [List.cons_append, List.append_assoc]
  apply value_object
  apply object_joined hmembers (hclose rest)

/-- A value without a fraction is read back from its text on one line. -/
theorem Exact.reads_compact {depth : Nat} {v : Value} (h : Exact depth v) :
  Reads (value depth) (compact v) v
  := by
  induction h with
  | null => apply reads_null
  | boolean b => apply reads_boolean
  | integer n => apply reads_integer
  | string s => apply reads_quote
  | @array depth xs _ ih =>
    rw [compact, compactItems_eq_joined, List.cons_append]
    apply reads_array ih
    apply skipBlank_cons (by decide)
  | @object depth ms _ ih =>
    rw [compact, compactMembers_eq_joined, List.cons_append]
    apply reads_object
    · intro m hm
      apply readsMember_quote (ih m hm)
    · apply skipBlank_cons (by decide)

/-! ### Lists -/

section List

variable {α : Type} {encode : α → Value} {convert : Value → Except String α}

/-- A list whose items are encoded as values without fractions is read back from its text
when each item is decoded from its value. -/
theorem readList_render (hexact : ∀ x, Exact (depthLimit - 1) (encode x))
    (hconvert : ∀ x, convert (encode x) = .ok x) (xs : List α) :
  readList convert (render (.array (xs.map encode))) = .ok xs
  := by
  have hitem : ∀ x, Reads (item convert (depthLimit - 1)) (compact (encode x)) x := by
    intro x
    have hreads := (hexact x).reads_compact
    constructor
    · apply hreads.starts
    · intro rest hrest
      rw [item, hreads.reads rest hrest]
      simp only [hconvert]
  have hitems : List.Forall₂ (Reads (item convert (depthLimit - 1)))
      ((xs.map encode).map compact) xs := by
    rw [List.map_map, List.forall₂_map_left_iff, List.forall₂_same]
    intro x _
    apply hitem x
  have hafter : skipBlank [']'] = ']' :: [] := skipBlank_cons (by decide) []
  have hread := array_joined ItemError.fault hitems hafter
  rw [readList, render, String.toList_ofList, compact, compactItems_eq_joined, List.cons_append,
    skipBlank_cons (by decide)]
  simp only [hread]
  rfl

end List

end MatchCriteria.Json
