import MatchCriteria.Unicode.Case

/-!
# Lower case and ASCII

Of the characters of ASCII only the capital letters have a lower case of their own, the small
letters.  A character beyond ASCII has a lower case in which there is a character beyond ASCII,
with one exception: that of the sign of the kelvin is the letter k.  Hence the lower case of a text
is a word of ASCII without this letter exactly when the text differs from the word in nothing but
the case of letters of ASCII.
-/

namespace MatchCriteria.Unicode

/-- The number of characters of ASCII, which come before all others. -/
def asciiSize : Nat := 0x80

/-- A character of ASCII that is the lower case of characters of ASCII only. -/
def OnlyFromAscii (c : Char) : Prop := c.toNat < asciiSize ∧ c ≠ 'k'

/-! ### The table -/

theorem toNat_ofNat {n : Nat} (h : n.isValidChar) :
  (Char.ofNat n).toNat = n
  := by
  rw [Char.ofNat, dif_pos h]
  rfl

/-- On ASCII the table of lower case is the case of letters. -/
theorem ofNat_lookup_of_lt {c : Char} (h : c.toNat < asciiSize) :
  Char.ofNat (CaseRun.lookup lowercaseTable c.toNat) = c.toLower
  := by
  have ascii : ∀ n < asciiSize,
      Char.ofNat (CaseRun.lookup lowercaseTable n) = (Char.ofNat n).toLower := by
    decide +kernel
  have hc := ascii c.toNat h
  rwa [Char.ofNat_toNat] at hc

/-- Beyond ASCII a run of the table maps to characters beyond ASCII, or it is the sign of the
kelvin alone. -/
theorem image_lowercaseTable {r : CaseRun} (hr : r ∈ lowercaseTable) {c : Nat}
    (hcovers : r.covers c = true) (hc : asciiSize ≤ c) :
  r.image c = 'k'.toNat ∨ asciiSize ≤ r.image c ∧ (r.image c).isValidChar
  := by
  have rows : ∀ r ∈ lowercaseTable, asciiSize ≤ r.last →
      r.first = r.last ∧ r.last + r.offset = 'k'.toNat ∨
        asciiSize ≤ r.first + r.offset ∧
          (r.last + r.offset < 0xD800 ∨
            0xDFFF < r.first + r.offset ∧ r.last + r.offset < 0x110000) := by
    decide +kernel
  rw [CaseRun.covers, Bool.and_eq_true, Bool.and_eq_true, decide_eq_true_iff,
    decide_eq_true_iff] at hcovers
  obtain ⟨⟨hfirst, hlast⟩, -⟩ := hcovers
  rw [CaseRun.image, Nat.isValidChar]
  rcases rows r hr (Nat.le_trans hc hlast) with ⟨hone, hk⟩ | ⟨hlow, hvalid⟩
  · omega
  · omega

/-- The lower case of a character beyond ASCII is the letter k or beyond ASCII. -/
theorem ofNat_lookup_of_le {c : Char} (h : asciiSize ≤ c.toNat) :
  ¬ OnlyFromAscii (Char.ofNat (CaseRun.lookup lowercaseTable c.toNat))
  := by
  rintro ⟨hascii, hk⟩
  rw [CaseRun.lookup] at hascii hk
  split at hascii
  case h_1 r hr =>
    have hmem := List.mem_of_find?_eq_some hr
    have hcovers := List.find?_some hr
    rw [hr] at hk
    rcases image_lowercaseTable hmem hcovers h with himage | ⟨hle, hvalid⟩
    · simp only [himage, Char.ofNat_toNat] at hk
      contradiction
    · rw [toNat_ofNat hvalid] at hascii
      omega
  case h_2 =>
    rw [Char.ofNat_toNat] at hascii
    omega

/-! ### Characters -/

theorem lowercaseChar_of_lt {c : Char} (h : c.toNat < asciiSize) (before after : List Char) :
  lowercaseChar before c after = [c.toLower]
  := by
  have hI : c.toNat ≠ capitalIWithDot := Nat.ne_of_lt (Nat.lt_trans h (by decide))
  have hsigma : c.toNat ≠ capitalSigma := Nat.ne_of_lt (Nat.lt_trans h (by decide))
  rw [lowercaseChar, if_neg hI, if_neg hsigma, ofNat_lookup_of_lt h]

/-- In the lower case of a character beyond ASCII there is one that does not come from ASCII
only. -/
theorem exists_mem_lowercaseChar {c : Char} (h : asciiSize ≤ c.toNat) (before after : List Char) :
  ∃ d ∈ lowercaseChar before c after, ¬ OnlyFromAscii d
  := by
  have beyond {n : Nat} (hn : n = 0x307 ∨ n = 0x3C2 ∨ n = 0x3C3) :
      ¬ OnlyFromAscii (Char.ofNat n) := by
    rcases hn with rfl | rfl | rfl
    all_goals exact fun hascii => absurd hascii.1 (by decide)
  unfold lowercaseChar
  split
  · exact ⟨_, List.mem_cons_of_mem _ List.mem_cons_self, beyond (.inl rfl)⟩
  · split
    · split
      · exact ⟨_, List.mem_cons_self, beyond (.inr (.inl rfl))⟩
      · exact ⟨_, List.mem_cons_self, beyond (.inr (.inr rfl))⟩
    · exact ⟨_, List.mem_cons_self, ofNat_lookup_of_le h⟩

/-- A character beyond ASCII is left alone by the case of letters of ASCII. -/
theorem toLower_of_le {c : Char} (h : asciiSize ≤ c.toNat) :
  c.toLower = c
  := by
  have hlt : 'Z'.toNat < asciiSize := by decide
  have hrange : ¬ (c.val ≥ 'A'.val ∧ c.val ≤ 'Z'.val) := by
    rintro ⟨-, hle⟩
    have hle : c.toNat ≤ 'Z'.toNat := hle
    omega
  apply dif_neg hrange

/-! ### Texts -/

theorem lowercaseAfter_eq_iff {word : List Char} (hword : ∀ d ∈ word, OnlyFromAscii d)
    (before cs : List Char) :
  lowercaseAfter before cs = word ↔ cs.map Char.toLower = word
  := by
  induction cs generalizing before word with
  | nil => rfl
  | cons c cs ih =>
    rw [lowercaseAfter, List.map_cons]
    by_cases hc : c.toNat < asciiSize
    · rw [lowercaseChar_of_lt hc, List.singleton_append]
      cases word with
      | nil => simp only [List.cons_ne_nil]
      | cons d word =>
        rw [List.cons.injEq, List.cons.injEq,
          ih fun e he => hword e (List.mem_cons_of_mem d he)]
    · -- A character beyond ASCII can be matched on neither side.
      rw [Nat.not_lt] at hc
      constructor
      · rintro rfl
        obtain ⟨d, hd, hascii⟩ := exists_mem_lowercaseChar hc before cs
        cases hascii (hword d (List.mem_append_left _ hd))
      · rintro rfl
        obtain ⟨hascii, -⟩ := hword c.toLower List.mem_cons_self
        rw [toLower_of_le hc] at hascii
        omega

/-- The lower case of a text is a word of ASCII without the letter k exactly when the text differs
from the word in nothing but the case of letters of ASCII. -/
theorem lowercaseText_eq_iff {word : List Char} (hword : ∀ d ∈ word, OnlyFromAscii d)
    (cs : List Char) :
  lowercaseText cs = word ↔ cs.map Char.toLower = word
  := lowercaseAfter_eq_iff hword [] cs

end MatchCriteria.Unicode
