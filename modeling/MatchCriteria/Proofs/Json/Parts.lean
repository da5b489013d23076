import Mathlib.Data.List.DropRight
import Mathlib.Data.List.Forall2
import MatchCriteria.Proofs.Json.Numbers
import MatchCriteria.Proofs.Json.Strings

/-!
# Arrays and objects from their parts

`Reads reader text x` says that a reader takes a text for `x` wherever the text stands: behind
blanks, and before anything that ends a value.  When the items of an array are read in this
sense, then so is the array, and when the members of an object are, then so is the object.
-/

namespace MatchCriteria.Json

/-- The text is at its end, or goes on with a blank or with what separates and closes. -/
def Ends (rest : List Char) : Prop :=
  ∀ c ∈ rest.head?, isBlank c = true ∨ c ∈ [',', ']', '\x7d']

theorem isBlank_iff (c : Char) :
  isBlank c = true ↔ c ∈ [' ', '\n', '\t', '\r']
  := by
  simp [isBlank, or_assoc]

theorem Ends.endsNumber {rest : List Char} (h : Ends rest) :
  EndsNumber rest
  := by
  have row : ([' ', '\n', '\t', '\r'] ++ [',', ']', '\x7d']).all
      (fun c => !isDigit c && !(['.', 'e', 'E'].contains c)) = true := by
    decide
  intro c hc
  have hmem : c ∈ [' ', '\n', '\t', '\r'] ++ [',', ']', '\x7d'] := by
    rcases h c hc with hblank | hmem
    · rw [isBlank_iff] at hblank
      apply List.mem_append_left _ hblank
    · apply List.mem_append_right _ hmem
  simpa using List.all_eq_true.mp row c hmem

/-- What starts with a separator after its blanks ends a value. -/
theorem ends_of_skipBlank {rest after : List Char} {c : Char} (hc : c ∈ [',', ']', '\x7d'])
    (h : skipBlank rest = c :: after) :
  Ends rest
  := by
  cases rest with
  | nil => cases h
  | cons d rest =>
    rintro _ ⟨⟩
    cases hd : isBlank d with
    | true => apply Or.inl rfl
    | false =>
      rw [skipBlank, List.dropWhile_cons_of_neg (by simp [hd])] at h
      cases h
      apply Or.inr hc

theorem skipBlank_append {text cs : List Char} {c : Char} (h : skipBlank text = c :: cs)
    (rest : List Char) :
  skipBlank (text ++ rest) = c :: cs ++ rest
  := by
  rw [skipBlank, List.dropWhile_append]
  rw [skipBlank] at h
  rw [h]
  rfl

theorem skipBlank_cons {c : Char} (h : isBlank c = false) (cs : List Char) :
  skipBlank (c :: cs) = c :: cs
  := by
  rw [skipBlank, List.dropWhile_cons_of_neg (by simp [h])]

/-- A text that a reader takes for `x`, whatever ends it. -/
structure Reads {ε α : Type} (reader : List Char → Except ε (α × List Char))
    (text : List Char) (x : α) : Prop where
  starts : ∃ c cs, skipBlank text = c :: cs ∧ c ≠ ']'
  reads (rest : List Char) : Ends rest → reader (skipBlank (text ++ rest)) = .ok (x, rest)

/-- Texts behind commas. -/
def continued (texts : List (List Char)) : List Char := texts.flatMap fun text => ',' :: text

/-- Texts with commas between them. -/
def joined : List (List Char) → List Char
  | [] => []
  | text :: texts => text ++ continued texts

theorem length_le_continued (texts : List (List Char)) :
  texts.length ≤ (continued texts).length
  := by
  induction texts with
  | nil => apply Nat.le_refl
  | cons text texts ih =>
    rw [continued, List.flatMap_cons, List.length_append, List.length_cons, List.length_cons]
    rw [continued] at ih
    omega

/-! ### Arrays -/

section Array

variable {ε α : Type} (fault : Fault → ε) {item : List Char → Except ε (α × List Char)}

/-- The last item is followed by a bracket. -/
theorem items_last {fuel : Nat} {cs rest after : List Char} {x : α}
    (hitem : item cs = .ok (x, rest)) (hrest : skipBlank rest = ']' :: after) :
  items fault item (fuel + 1) cs = .ok ([x], after)
  := by
  rw [items, hitem]
  simp only [bind, Except.bind, hrest]
  rfl

/-- Any other item is followed by a comma and the items after it. -/
theorem items_next {fuel : Nat} {cs rest more after tail : List Char} {c : Char} {x : α}
    {xs : List α} (hitem : item cs = .ok (x, rest)) (hrest : skipBlank rest = ',' :: more)
    (hmore : skipBlank more = c :: tail) (hc : c ≠ ']')
    (hitems : items fault item fuel (c :: tail) = .ok (xs, after)) :
  items fault item (fuel + 1) cs = .ok (x :: xs, after)
  := by
  rw [items, hitem]
  simp only [bind, Except.bind, hrest, hmore]
  split
  · rename_i h
    cases h
  · rename_i h
    cases h
    cases hc rfl
  · rw [hitems]
    rfl

/-- Items with commas between them are read up to the bracket after them. -/
theorem items_continued {text after rest : List Char} {texts : List (List Char)} {x : α}
    {xs : List α} (h : Reads item text x) (hs : List.Forall₂ (Reads item) texts xs)
    (hafter : skipBlank after = ']' :: rest) {fuel : Nat} (hfuel : texts.length < fuel) :
  items fault item fuel (skipBlank (text ++ (continued texts ++ after)))
    = .ok (x :: xs, rest)
  := by
  induction hs generalizing text x fuel with
  | nil =>
    obtain ⟨fuel, rfl⟩ := Nat.exists_eq_add_of_lt hfuel
    have hends : Ends after := ends_of_skipBlank (by decide) hafter
    apply items_last fault (h.reads after hends) hafter
  | @cons text' x' texts xs h' hs ih =>
    obtain ⟨fuel, rfl⟩ := Nat.exists_eq_add_of_lt hfuel
    obtain ⟨c, cs, hstart, hc⟩ := h'.starts
    have hcomma : skipBlank (continued (text' :: texts) ++ after)
        = ',' :: (text' ++ (continued texts ++ after)) := by
      rw [continued, List.flatMap_cons, List.cons_append, List.cons_append,
        skipBlank_cons (by decide), List.append_assoc]
      rfl
    have hends : Ends (continued (text' :: texts) ++ after) :=
      ends_of_skipBlank (by decide) hcomma
    have hfuel' : texts.length < (text' :: texts).length + fuel := by
      rw [List.length_cons]
      omega
    have hmore := ih h' hfuel'
    rw [skipBlank_append hstart] at hmore
    apply items_next fault (h.reads _ hends) hcomma (skipBlank_append hstart _) hc hmore

/-- An array is read when its items are. -/
theorem array_joined {after rest : List Char} {texts : List (List Char)} {xs : List α}
    (hs : List.Forall₂ (Reads item) texts xs) (hafter : skipBlank after = ']' :: rest) :
  array fault item (joined texts ++ after) = .ok (xs, rest)
  := by
  cases hs with
  | nil =>
    unfold array
    rw [joined, List.nil_append, hafter]
    rfl
  | @cons text x texts xs h hs =>
    obtain ⟨c, cs, hstart, hc⟩ := h.starts
    have hskip := skipBlank_append hstart (continued texts ++ after)
    have hfuel : texts.length < (c :: cs ++ (continued texts ++ after)).length := by
      have hle := length_le_continued texts
      simp only [List.length_append, List.length_cons]
      omega
    have hitems := items_continued fault h hs hafter hfuel
    rw [hskip] at hitems
    unfold array
    rw [joined, List.append_assoc, hskip]
    split
    · rename_i h
      cases h
    · rename_i h
      cases h
      cases hc rfl
    · apply hitems

end Array

/-! ### Objects -/

/-- A text that is read as a member: a name, a colon, and a text that is read as the value. -/
structure ReadsMember (value : Reader Value) (text : List Char) (m : String × Value) :
    Prop where
  starts : ∃ name described, skipBlank text = '"' :: (name ++ '"' :: ':' :: described) ∧
    SpelledText m.1.toList name ∧
    ∀ rest, Ends rest → value (described ++ rest) = .ok (m.2, rest)

section Object

variable {value : Reader Value}

theorem afterName_colon (cs : List Char) :
  afterName value (':' :: cs) = value cs
  := by
  rw [afterName, skipBlank_cons (by decide)]
  rfl

/-- The last member is followed by a brace. -/
theorem members_last {fuel : Nat} {cs described rest after : List Char} {name : String}
    {v : Value} (hname : string cs = .ok (name, ':' :: described))
    (hvalue : value described = .ok (v, rest)) (hrest : skipBlank rest = '\x7d' :: after) :
  members value (fuel + 1) cs = .ok ([(name, v)], after)
  := by
  rw [members, hname]
  simp only [bind, Except.bind, afterName_colon, hvalue, hrest]
  rfl

/-- Any other member is followed by a comma and the members after it. -/
theorem members_next {fuel : Nat} {cs described rest more after tail : List Char}
    {name : String} {v : Value} {ms : List (String × Value)}
    (hname : string cs = .ok (name, ':' :: described))
    (hvalue : value described = .ok (v, rest)) (hrest : skipBlank rest = ',' :: more)
    (hmore : skipBlank more = '"' :: tail) (hmembers : members value fuel tail = .ok (ms, after)) :
  members value (fuel + 1) cs = .ok ((name, v) :: ms, after)
  := by
  rw [members, hname]
  simp only [bind, Except.bind, afterName_colon, hvalue, hrest, hmore, hmembers]
  rfl

/-- Members with commas between them are read, behind the quote that opens the first of them,
up to the brace after them. -/
theorem members_continued {text after rest : List Char} {texts : List (List Char)}
    {m : String × Value} {ms : List (String × Value)} (h : ReadsMember value text m)
    (hs : List.Forall₂ (ReadsMember value) texts ms) (hafter : skipBlank after = '\x7d' :: rest)
    {fuel : Nat} (hfuel : texts.length < fuel) :
  ∃ cs, skipBlank (text ++ (continued texts ++ after)) = '"' :: cs ∧
    members value fuel cs = .ok (m :: ms, rest)
  := by
  induction hs generalizing text m fuel with
  | nil =>
    obtain ⟨fuel, rfl⟩ := Nat.exists_eq_add_of_lt hfuel
    obtain ⟨name, described, hstart, hname, hvalue⟩ := h.starts
    have hends : Ends after := ends_of_skipBlank (by decide) hafter
    use (name ++ '"' :: ':' :: described) ++ after
    constructor
    · apply skipBlank_append hstart
    · rw [List.append_assoc, List.cons_append, List.cons_append]
      apply members_last (string_spelledText hname _) (hvalue after hends) hafter
  | @cons text' m' texts ms h' hs ih =>
    obtain ⟨fuel, rfl⟩ := Nat.exists_eq_add_of_lt hfuel
    obtain ⟨name, described, hstart, hname, hvalue⟩ := h.starts
    have hcomma : skipBlank (continued (text' :: texts) ++ after)
        = ',' :: (text' ++ (continued texts ++ after)) := by
      rw [continued, List.flatMap_cons, List.cons_append, List.cons_append,
        skipBlank_cons (by decide), List.append_assoc]
      rfl
    have hends : Ends (continued (text' :: texts) ++ after) :=
      ends_of_skipBlank (by decide) hcomma
    have hfuel' : texts.length < (text' :: texts).length + fuel := by
      rw [List.length_cons]
      omega
    obtain ⟨tail, htail, hmembers⟩ := ih h' hfuel'
    use (name ++ '"' :: ':' :: described) ++ (continued (text' :: texts) ++ after)
    constructor
    · apply skipBlank_append hstart
    · rw [List.append_assoc, List.cons_append, List.cons_append]
      apply members_next (string_spelledText hname _) (hvalue _ hends) hcomma htail hmembers

/-- An object is read when its members are. -/
theorem object_joined {after rest : List Char} {texts : List (List Char)}
    {ms : List (String × Value)} (hs : List.Forall₂ (ReadsMember value) texts ms)
    (hafter : skipBlank after = '\x7d' :: rest) :
  object value (joined texts ++ after) = .ok (ms, rest)
  := by
  cases hs with
  | nil =>
    unfold object
    rw [joined, List.nil_append, hafter]
    rfl
  | @cons text m texts ms h hs =>
    obtain ⟨name, described, hstart, -, -⟩ := h.starts
    have hskip := skipBlank_append hstart (continued texts ++ after)
    have hfuel : texts.length
        < (name ++ '"' :: ':' :: described ++ (continued texts ++ after)).length := by
      have hle := length_le_continued texts
      simp only [List.length_append, List.length_cons]
      omega
    obtain ⟨cs, hcs, hmembers⟩ := members_continued h hs hafter hfuel
    rw [hskip] at hcs
    cases hcs
    unfold object
    rw [joined, List.append_assoc, hskip]
    apply hmembers

end Object

end MatchCriteria.Json
