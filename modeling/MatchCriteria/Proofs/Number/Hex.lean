import Mathlib.Data.List.Forall2
import Mathlib.Data.Nat.Digits.Defs
import MatchCriteria.Number.Hex

/-!
# What hexadecimal tokens denote

`Denotes token n` is the grammar of hexadecimal integers, given apart from how they are read:
an optional sign, an optional prefix and digits, whose value is the sum of the digits with
their weights.  Reading a token finds what it denotes, and fails where it denotes nothing.
The written form of an integer denotes it, and has no leading zero.
-/

namespace MatchCriteria.Number.Hex

/-! ### Digits -/

/-- The lower-case digits in the order of their values. -/
def lowerDigits : List Char := "0123456789abcdef".toList

/-- The upper-case digits in the order of their values. -/
def upperDigits : List Char := "0123456789ABCDEF".toList

/-- A digit of either case, and its value. -/
def IsDigit (c : Char) (d : Nat) : Prop :=
  lowerDigits[d]? = some c ∨ upperDigits[d]? = some c

theorem IsDigit.lt {c : Char} {d : Nat} (h : IsDigit c d) :
  d < 16
  := by
  rcases h with h | h
  · apply (List.getElem?_eq_some_iff.mp h).1
  · apply (List.getElem?_eq_some_iff.mp h).1

/-- The digits of the two rows are read as their places in the rows. -/
theorem digit?_of_isDigit {c : Char} {d : Nat} (h : IsDigit c d) :
  digit? c = some d
  := by
  have rows : ∀ d < 16,
      lowerDigits[d]?.bind digit? = some d ∧ upperDigits[d]?.bind digit? = some d := by
    decide
  obtain ⟨hl, hu⟩ := rows d h.lt
  rcases h with h | h
  · rw [h] at hl
    apply hl
  · rw [h] at hu
    apply hu

theorem toNat_lt_of_digit? {c : Char} {d : Nat} (h : digit? c = some d) :
  c.toNat < 128
  := by
  by_contra hc
  have above (b : Char) (hb : b.toNat < 128) : ¬ c ≤ b := by
    rw [Char.le_def, UInt32.le_iff_toNat_le]
    simp only [Char.toNat] at hb hc
    omega
  simp [digit?, above '9' (by decide), above 'f' (by decide), above 'F' (by decide)] at h

/-- What is read as a digit stands in one of the two rows. -/
theorem isDigit_of_digit? {c : Char} {d : Nat} (h : digit? c = some d) :
  IsDigit c d
  := by
  have ascii : ∀ n < 128, ∀ d ∈ digit? (Char.ofNat n), IsDigit (Char.ofNat n) d := by
    unfold IsDigit
    decide
  have hd := ascii c.toNat (toNat_lt_of_digit? h)
  rw [Char.ofNat_toNat] at hd
  apply hd d h

theorem digit?_eq_some_iff (c : Char) (d : Nat) :
  digit? c = some d ↔ IsDigit c d
  := ⟨isDigit_of_digit?, digit?_of_isDigit⟩

/-- A digit sequence is read digit by digit, each before the ones that weigh less. -/
theorem digits?_eq_some_iff (acc n : Nat) (cs : List Char) :
  digits? acc cs = some n ↔
    ∃ ds, List.Forall₂ IsDigit cs ds ∧ n = ds.foldl (fun m d => 16 * m + d) acc
  := by
  induction cs generalizing acc with
  | nil =>
    simp only [digits?, Option.some.injEq, List.forall₂_nil_left_iff]
    constructor
    · rintro rfl
      use []
      simp
    · rintro ⟨_, rfl, rfl⟩
      rfl
  | cons c cs ih =>
    simp only [digits?, Option.bind_eq_some_iff, digit?_eq_some_iff, ih,
      List.forall₂_cons_left_iff]
    constructor
    · rintro ⟨d, hd, ds, hds, rfl⟩
      exact ⟨d :: ds, ⟨d, ds, hd, hds, rfl⟩, rfl⟩
    · rintro ⟨_, ⟨d, ds, hd, hds, rfl⟩, rfl⟩
      exact ⟨d, hd, ds, hds, rfl⟩

/-- Reading adds up the digits, each with the weight of its place. -/
theorem foldl_eq_ofDigits (ds : List Nat) :
  ds.foldl (fun m d => 16 * m + d) 0 = Nat.ofDigits 16 ds.reverse
  := by
  rw [Nat.ofDigits_eq_foldr, List.foldr_reverse]
  simp only [Nat.cast_id, Nat.add_comm]

/-! ### Tokens -/

/-- A token without a sign, and the number it denotes: digits, perhaps behind a prefix.  The
first of the digits weighs most. -/
inductive Magnitude : List Char → Nat → Prop where
  | intro (before digits : List Char) (values : List Nat)
      (hbefore : before = [] ∨ before = ['0', 'x'] ∨ before = ['0', 'X'])
      (hdigits : digits ≠ []) (hvalues : List.Forall₂ IsDigit digits values) :
      Magnitude (before ++ digits) (Nat.ofDigits 16 values.reverse)

/-- A token, and the integer it denotes. -/
inductive Denotes : List Char → Int → Prop where
  | unsigned {cs : List Char} {n : Nat} (h : Magnitude cs n) : Denotes cs n
  | plus {cs : List Char} {n : Nat} (h : Magnitude cs n) : Denotes ('+' :: cs) n
  | minus {cs : List Char} {n : Nat} (h : Magnitude cs n) : Denotes ('-' :: cs) (-n)

theorem not_isDigit_of_mem {c : Char} (h : c ∈ ['x', 'X', '+', '-']) (d : Nat) :
  ¬ IsDigit c d
  := by
  rw [← digit?_eq_some_iff]
  have row : ['x', 'X', '+', '-'].all (fun c => (digit? c).isNone) = true := by decide
  have hnone := List.all_eq_true.mp row c h
  rw [Option.isNone_iff_eq_none] at hnone
  simp [hnone]

/-- After a prefix comes what is left when it is dropped; without one all is left. -/
theorem dropPrefix_append {before digits : List Char} {values : List Nat}
    (hbefore : before = [] ∨ before = ['0', 'x'] ∨ before = ['0', 'X'])
    (hvalues : List.Forall₂ IsDigit digits values) :
  dropPrefix (before ++ digits) = digits
  := by
  rcases hbefore with rfl | rfl | rfl
  · rw [List.nil_append]
    unfold dropPrefix
    split
    · obtain _ | ⟨_, _ | ⟨hx, _⟩⟩ := hvalues
      cases not_isDigit_of_mem (by decide) _ hx
    · obtain _ | ⟨_, _ | ⟨hx, _⟩⟩ := hvalues
      cases not_isDigit_of_mem (by decide) _ hx
    · rfl
  · rfl
  · rfl

/-- What is dropped is a prefix or nothing. -/
theorem eq_append_dropPrefix (cs : List Char) :
  ∃ before, (before = [] ∨ before = ['0', 'x'] ∨ before = ['0', 'X']) ∧
    cs = before ++ dropPrefix cs
  := by
  unfold dropPrefix
  split
  · exact ⟨['0', 'x'], by simp, rfl⟩
  · exact ⟨['0', 'X'], by simp, rfl⟩
  · exact ⟨[], by simp, rfl⟩

theorem magnitude?_eq_some_iff (cs : List Char) (n : Nat) :
  magnitude? cs = some n ↔ Magnitude cs n
  := by
  constructor
  · intro h
    obtain ⟨before, hbefore, hcs⟩ := eq_append_dropPrefix cs
    unfold magnitude? at h
    split at h
    · cases h
    · rename_i c rest hrest
      obtain ⟨values, hvalues, rfl⟩ := (digits?_eq_some_iff _ _ _).mp h
      rw [foldl_eq_ofDigits, hcs, hrest]
      apply Magnitude.intro before (c :: rest) values hbefore (List.cons_ne_nil _ _) hvalues
  · rintro ⟨before, digits, values, hbefore, hdigits, hvalues⟩
    unfold magnitude?
    rw [dropPrefix_append hbefore hvalues]
    cases digits with
    | nil => cases hdigits rfl
    | cons c rest =>
      apply (digits?_eq_some_iff _ _ _).mpr
      exact ⟨values, hvalues, (foldl_eq_ofDigits values).symm⟩

/-- A token without a sign does not begin with one. -/
theorem Magnitude.head_ne {cs : List Char} {n : Nat} (h : Magnitude cs n) (rest : List Char) :
  cs ≠ '-' :: rest ∧ cs ≠ '+' :: rest
  := by
  obtain ⟨before, digits, values, hbefore, hdigits, hvalues⟩ := h
  rcases hbefore with rfl | rfl | rfl
  · cases hvalues with
    | nil => cases hdigits rfl
    | cons hd _ =>
      constructor
      · rintro ⟨⟩
        apply not_isDigit_of_mem (by decide) _ hd
      · rintro ⟨⟩
        apply not_isDigit_of_mem (by decide) _ hd
  · simp
  · simp

/-- Reading a token finds the integer that it denotes. -/
theorem integer?_eq_some_iff (token : List Char) (n : Int) :
  integer? token = some n ↔ Denotes token n
  := by
  constructor
  · intro h
    unfold integer? at h
    split at h
    all_goals
      obtain ⟨k, hk, rfl⟩ := Option.map_eq_some_iff.mp h
      have hm := (magnitude?_eq_some_iff _ _).mp hk
    · apply Denotes.minus hm
    · apply Denotes.plus hm
    · apply Denotes.unsigned hm
  · rintro (h | h | h)
    · have hk := (magnitude?_eq_some_iff _ _).mpr h
      unfold integer?
      split
      · cases (h.head_ne _).1 rfl
      · cases (h.head_ne _).2 rfl
      · rw [hk]
        rfl
    · simp [integer?, (magnitude?_eq_some_iff _ _).mpr h]
    · simp [integer?, (magnitude?_eq_some_iff _ _).mpr h]

/-! ### Written forms -/

/-- Digits without a leading zero: lower-case digits that do not start with a zero, unless
they are nothing else. -/
inductive Canonical : List Char → Nat → Prop where
  | intro (digits : List Char) (values : List Nat) (hdigits : digits ≠ [])
      (hvalues : List.Forall₂ (fun c d => lowerDigits[d]? = some c) digits values)
      (hzero : digits.head? = some '0' → digits = ['0']) :
      Canonical digits (Nat.ofDigits 16 values.reverse)

theorem lowerDigits_getElem? {d : Nat} (h : d < 16) :
  lowerDigits[d]? = some (digit d)
  := by
  have row : ∀ d < 16, lowerDigits[d]? = some (digit d) := by decide
  apply row d h

theorem digit_eq_zero_iff {d : Nat} (h : d < 16) :
  digit d = '0' ↔ d = 0
  := by
  have row : ∀ d < 16, (digit d = '0' ↔ d = 0) := by decide
  apply row d h

theorem digits_ne_nil (n : Nat) :
  digits n ≠ []
  := by
  unfold digits
  split <;> simp

/-- The digits of a number other than zero do not start with a zero. -/
theorem head?_digits_ne {n : Nat} (h : 0 < n) :
  (digits n).head? ≠ some '0'
  := by
  induction n using digits.induct with
  | case1 n hn =>
    rw [digits, if_pos hn]
    simp [digit_eq_zero_iff hn]
    omega
  | case2 n hn ih =>
    obtain ⟨c, cs, hcs⟩ := List.exists_cons_of_ne_nil (digits_ne_nil (n / 16))
    rw [digits, if_neg hn, hcs, List.cons_append]
    rw [hcs] at ih
    apply ih
    omega

/-- The digits of a number are its digits in base 16, and no zero comes first. -/
theorem canonical_digits (n : Nat) :
  Canonical (digits n) n
  := by
  have places : ∃ values,
      List.Forall₂ (fun c d => lowerDigits[d]? = some c) (digits n) values ∧
        Nat.ofDigits 16 values.reverse = n := by
    induction n using digits.induct with
    | case1 n hn =>
      use [n]
      rw [digits, if_pos hn]
      simp [lowerDigits_getElem? hn]
    | case2 n hn ih =>
      obtain ⟨values, hvalues, hn'⟩ := ih
      have hmod : n % 16 < 16 := Nat.mod_lt _ (by decide)
      use values ++ [n % 16]
      rw [digits, if_neg hn]
      constructor
      · apply List.rel_append hvalues
        simp [lowerDigits_getElem? hmod]
      · rw [List.reverse_append, List.reverse_singleton, List.singleton_append,
          Nat.ofDigits_cons, hn']
        omega
  obtain ⟨values, hvalues, hn⟩ := places
  have hzero : (digits n).head? = some '0' → digits n = ['0'] := by
    intro hhead
    cases Nat.eq_zero_or_pos n with
    | inl h =>
      subst h
      rw [digits, if_pos (by decide)]
      rfl
    | inr h => cases head?_digits_ne h hhead
  have h := Canonical.intro (digits n) values (digits_ne_nil n) hvalues hzero
  rw [hn] at h
  apply h

/-- Digits of which the greatest is not a zero, given least first, are those of the number that
they denote. -/
theorem digits_ofDigits {cs : List Char} {values : List Nat} (hcs : cs ≠ [])
    (hvalues : List.Forall₂ (fun c d => lowerDigits[d]? = some c) cs values)
    (hlast : cs.getLast? ≠ some '0') :
  digits (Nat.ofDigits 16 values) = cs.reverse
  := by
  induction hvalues with
  | nil => cases hcs rfl
  | @cons c d cs values hd hvalues ih =>
    obtain ⟨hlt, -⟩ := List.getElem?_eq_some_iff.mp hd
    have hlt : d < 16 := hlt
    rw [lowerDigits_getElem? hlt] at hd
    cases hd
    rw [Nat.ofDigits_cons]
    cases hvalues with
    | nil =>
      rw [Nat.ofDigits_nil, digits, if_pos (by omega)]
      rfl
    | @cons c' d' cs values hd' hvalues =>
      rw [List.getLast?_cons_cons] at hlast
      have hdigits := ih (List.cons_ne_nil c' cs) hlast
      generalize Nat.ofDigits 16 (d' :: values) = m at hdigits ⊢
      have hpos : m ≠ 0 := by
        rintro rfl
        apply hlast
        rw [← List.head?_reverse, ← hdigits, digits, if_pos (by decide)]
        rfl
      rw [digits, if_neg (by omega), List.reverse_cons, ← hdigits]
      have hdiv : (d + 16 * m) / 16 = m := by omega
      have hmod : (d + 16 * m) % 16 = d := by omega
      rw [hdiv, hmod]

/-- A number has no other digits without a leading zero. -/
theorem canonical_iff (cs : List Char) (n : Nat) :
  Canonical cs n ↔ digits n = cs
  := by
  constructor
  · rintro ⟨values, hdigits, hvalues, hzero⟩
    by_cases hhead : cs.head? = some '0'
    · obtain rfl := hzero hhead
      cases hvalues with
      | @cons _ d _ _ hd hvalues =>
        obtain ⟨hlt, -⟩ := List.getElem?_eq_some_iff.mp hd
        have hlt : d < 16 := hlt
        rw [lowerDigits_getElem? hlt, Option.some.injEq, digit_eq_zero_iff hlt] at hd
        cases hd
        cases hvalues
        rw [digits, if_pos (by decide)]
        rfl
    · rw [← List.forall₂_reverse_iff] at hvalues
      rw [digits_ofDigits (by simpa using hdigits) hvalues (by rwa [List.getLast?_reverse]),
        List.reverse_reverse]
  · rintro rfl
    apply canonical_digits

/-- Lower-case digits without a leading zero are read as the number behind a prefix. -/
theorem Canonical.magnitude {digits : List Char} {n : Nat} (h : Canonical digits n) :
  Magnitude ('0' :: 'x' :: digits) n
  := by
  obtain ⟨values, hdigits, hvalues⟩ := h
  apply Magnitude.intro ['0', 'x'] _ values (by simp) hdigits
  apply hvalues.imp
  intro c d hd
  apply Or.inl hd

/-- The written form of an integer denotes it. -/
theorem denotes_render (n : Int) :
  Denotes (render n) n
  := by
  have h := (canonical_digits n.natAbs).magnitude
  unfold render
  split
  · have hm := Denotes.minus h
    rwa [show -(n.natAbs : Int) = n by omega] at hm
  · have hm := Denotes.unsigned h
    rwa [show (n.natAbs : Int) = n by omega] at hm

end MatchCriteria.Number.Hex
