import MatchCriteria.Json.Printer
import MatchCriteria.Json.Reader
import MatchCriteria.Proofs.Number.Hex

/-!
# The strings of JSON

`Spelled c text` says that `text` is one of the ways in which the character `c` can stand in a
string: as itself, by a letter, or by its number or the numbers of two surrogates.  A string in
which every character is spelled in some way is read as the characters, and writing spells every
character.
-/

namespace MatchCriteria.Json

/-- The letters of the short escapes, and the characters that they stand for. -/
def shortEscapes : List (Char × Char) :=
  [('"', '"'), ('\\', '\\'), ('/', '/'), ('b', '\x08'), ('f', '\x0c'), ('n', '\n'), ('r', '\r'),
    ('t', '\t')]

/-- The ways in which a character can stand in a string. -/
inductive Spelled : Char → List Char → Prop where
  | plain {c : Char} (hcontrol : 0x20 ≤ c.toNat) (hquote : c ≠ '"') (hbackslash : c ≠ '\\') :
      Spelled c [c]
  | short {letter c : Char} (h : (letter, c) ∈ shortEscapes) : Spelled c ['\\', letter]
  | code {c : Char} {digits : List Char} (hlength : digits.length = 4)
      (h : Number.Hex.digits? 0 digits = some c.toNat) : Spelled c ('\\' :: 'u' :: digits)
  | pair {c : Char} {first second : List Char} {high low : Nat} (hfirst : first.length = 4)
      (hsecond : second.length = 4) (hhigh : Number.Hex.digits? 0 first = some high)
      (hlow : Number.Hex.digits? 0 second = some low) (hhighs : 0xD800 ≤ high ∧ high ≤ 0xDBFF)
      (hlows : 0xDC00 ≤ low ∧ low ≤ 0xDFFF)
      (h : c.toNat = 0x10000 + (high - 0xD800) * 0x400 + (low - 0xDC00)) :
      Spelled c ('\\' :: 'u' :: (first ++ '\\' :: 'u' :: second))

/-- A text in which each of some characters is spelled in some way. -/
inductive SpelledText : List Char → List Char → Prop where
  | nil : SpelledText [] []
  | cons {c : Char} {cs text texts : List Char} (h : Spelled c text)
      (hs : SpelledText cs texts) : SpelledText (c :: cs) (text ++ texts)

/-! ### Reading -/

theorem fourDigits_eq {digits : List Char} (hlength : digits.length = 4) {n : Nat}
    (h : Number.Hex.digits? 0 digits = some n) (rest : List Char) :
  fourDigits (digits ++ rest) = .ok (n, rest)
  := by
  obtain ⟨a, b, c, d, rfl⟩ := List.length_eq_four.mp hlength
  simp only [List.cons_append, List.nil_append, fourDigits, h]

/-- No character is a surrogate. -/
theorem not_surrogate (c : Char) :
  ¬ (0xD800 ≤ c.toNat ∧ c.toNat ≤ 0xDFFF)
  := by
  rintro ⟨hlow, hhigh⟩
  rcases c.valid with h | h
  · simp only [Char.toNat] at hlow
    omega
  · simp only [Char.toNat] at hhigh
    omega

theorem escape_code {c : Char} {digits : List Char} (hlength : digits.length = 4)
    (h : Number.Hex.digits? 0 digits = some c.toNat) (rest : List Char) :
  escape ('u' :: digits ++ rest) = .ok (c, rest)
  := by
  have hc := not_surrogate c
  rw [List.cons_append, escape, fourDigits_eq hlength h]
  simp only [bind, Except.bind]
  rw [if_neg (by omega), if_neg (by omega), Char.ofNat_toNat]
  rfl

/-- Two surrogates are read as the character that they denote together. -/
theorem escape_pair {c : Char} {first second : List Char} {high low : Nat}
    (hfirst : first.length = 4) (hsecond : second.length = 4)
    (hhigh : Number.Hex.digits? 0 first = some high)
    (hlow : Number.Hex.digits? 0 second = some low) (hhighs : 0xD800 ≤ high ∧ high ≤ 0xDBFF)
    (hlows : 0xDC00 ≤ low ∧ low ≤ 0xDFFF)
    (h : c.toNat = 0x10000 + (high - 0xD800) * 0x400 + (low - 0xDC00)) (rest : List Char) :
  escape ('u' :: (first ++ '\\' :: 'u' :: second) ++ rest) = .ok (c, rest)
  := by
  rw [List.cons_append, List.append_assoc, escape, fourDigits_eq hfirst hhigh]
  simp only [bind, Except.bind, List.cons_append]
  rw [if_neg (by omega), if_pos hhighs, lowSurrogate, fourDigits_eq hsecond hlow]
  simp only [bind, Except.bind]
  rw [if_pos hlows, ← h, Char.ofNat_toNat]
  rfl

theorem escape_short {letter c : Char} (h : (letter, c) ∈ shortEscapes) (rest : List Char) :
  escape (letter :: rest) = .ok (c, rest)
  := by
  simp only [shortEscapes, List.mem_cons, Prod.mk.injEq, List.not_mem_nil, or_false] at h
  rcases h with ⟨rfl, rfl⟩ | ⟨rfl, rfl⟩ | ⟨rfl, rfl⟩ | ⟨rfl, rfl⟩ | ⟨rfl, rfl⟩ | ⟨rfl, rfl⟩ |
    ⟨rfl, rfl⟩ | ⟨rfl, rfl⟩ <;> rfl

/-- A spelled character is read, and then the characters after it. -/
theorem characters_spelled {c : Char} {text : List Char} (h : Spelled c text) (fuel : Nat)
    {rest cs after : List Char} (hrest : characters fuel rest = .ok (cs, after)) :
  characters (fuel + 1) (text ++ rest) = .ok (c :: cs, after)
  := by
  cases h with
  | plain hcontrol hquote hbackslash =>
    rw [List.singleton_append, characters]
    · rw [if_neg (by omega), hrest]
      rfl
    · apply hquote
    · apply hbackslash
  | short h =>
    rw [List.cons_append, List.singleton_append, characters, escape_short h]
    simp only [bind, Except.bind, hrest]
    rfl
  | code hlength h =>
    rw [List.cons_append, characters, escape_code hlength h]
    simp only [bind, Except.bind, hrest]
    rfl
  | pair hfirst hsecond hhigh hlow hhighs hlows h =>
    rw [List.cons_append, characters, escape_pair hfirst hsecond hhigh hlow hhighs hlows h]
    simp only [bind, Except.bind, hrest]
    rfl

/-- Spelled characters are read up to the quote after them. -/
theorem characters_spelledText {cs text : List Char} (h : SpelledText cs text) {fuel : Nat}
    (hfuel : cs.length ≤ fuel) (rest : List Char) :
  characters fuel (text ++ '"' :: rest) = .ok (cs, rest)
  := by
  induction h generalizing fuel with
  | nil => simp [characters]
  | cons h hs ih =>
    rw [List.length_cons] at hfuel
    obtain ⟨fuel, rfl⟩ := Nat.exists_eq_add_of_le' (Nat.one_le_of_lt hfuel)
    rw [List.append_assoc]
    apply characters_spelled h
    apply ih
    omega

theorem Spelled.length_pos {c : Char} {text : List Char} (h : Spelled c text) :
  0 < text.length
  := by
  cases h <;> simp

/-- Spelling a text does not make it shorter. -/
theorem SpelledText.length_le {cs text : List Char} (h : SpelledText cs text) :
  cs.length ≤ text.length
  := by
  induction h with
  | nil => apply Nat.le_refl
  | cons h hs ih =>
    have hpos := h.length_pos
    rw [List.length_cons, List.length_append]
    omega

/-- A spelled string is read up to its closing quote. -/
theorem string_spelledText {s : String} {text : List Char} (h : SpelledText s.toList text)
    (rest : List Char) :
  string (text ++ '"' :: rest) = .ok (s, rest)
  := by
  have hfuel : s.toList.length ≤ (text ++ '"' :: rest).length := by
    have hle := h.length_le
    rw [List.length_append]
    omega
  rw [string, characters_spelledText h hfuel]
  simp only [bind, Except.bind, String.ofList_toList]
  rfl

/-! ### Writing -/

theorem digits?_code {n : Nat} (h : n < 0x20) :
  Number.Hex.digits? 0 ['0', '0', Number.Hex.digit (n / 16), Number.Hex.digit (n % 16)] = some n
  := by
  have row : ∀ n < 0x20, Number.Hex.digits? 0
      ['0', '0', Number.Hex.digit (n / 16), Number.Hex.digit (n % 16)] = some n := by
    decide
  apply row n h

/-- Writing a character spells it. -/
theorem spelled_stringChar (c : Char) :
  Spelled c (stringChar c)
  := by
  unfold stringChar
  split
  case h_8 hquote hbackslash _ _ _ _ _ =>
    split
    · rename_i hcontrol
      apply Spelled.code rfl (digits?_code hcontrol)
    · rename_i hcontrol
      apply Spelled.plain _ hquote hbackslash
      omega
  all_goals
    apply Spelled.short
    decide

/-- Writing a text spells its characters one after the other. -/
theorem spelledText_flatMap (cs : List Char) :
  SpelledText cs (cs.flatMap stringChar)
  := by
  induction cs with
  | nil => apply SpelledText.nil
  | cons c cs ih =>
    rw [List.flatMap_cons]
    apply SpelledText.cons (spelled_stringChar c) ih

end MatchCriteria.Json
