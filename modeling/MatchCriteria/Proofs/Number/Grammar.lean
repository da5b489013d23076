import MatchCriteria.Number.Matcher
import MatchCriteria.Proofs.Number.Hex
import MatchCriteria.Proofs.Text.Blank

/-!
# The grammar of number matchers

`Means text r` says what a text is as a number matcher: which matcher it is, or why it is
none.  It is given by how the text is put together, and every text means exactly what reading
it gives.
-/

namespace MatchCriteria.NumberMatcher

open Number (Int128 Operator)
open Number.Hex (Denotes IsDigit Magnitude lowerDigits upperDigits)
open Text (Cut Solid Trimmed isBlank)

/-- What a token means behind an operator: the comparison with the integer that it denotes,
if that is in range. -/
inductive OfToken (op : Operator) (token : List Char) :
    Except MatcherError NumberMatcher → Prop where
  | value (n : Int128) (h : Denotes token n.val) : OfToken op token (.ok (.compare op n))
  | refused (h : ∀ n : Int128, ¬ Denotes token n.val) :
      OfToken op token (.error (.invalidNumber (String.ofList token)))

/-- What a text means.  The empty text is the matcher of absence.  Of any other text the
blanks around it do not count; if there are blanks in what is left, the first run of them
stands behind an operator, and the operator is looked at first. -/
inductive Means : List Char → Except MatcherError NumberMatcher → Prop where
  | absent : Means [] (.ok .absent)
  | bare {text token : List Char} {r : Except MatcherError NumberMatcher} (hne : text ≠ [])
      (htrim : Trimmed text token) (hsolid : Solid token) (h : OfToken .eq token r) :
      Means text r
  | operator {text body token : List Char} {op : Operator}
      {r : Except MatcherError NumberMatcher} (htrim : Trimmed text body)
      (hcut : Cut body op.token.toList token) (h : OfToken op token r) : Means text r
  | unknown {text body first token : List Char} (htrim : Trimmed text body)
      (hcut : Cut body first token) (h : ∀ op : Operator, op.token.toList ≠ first) :
      Means text (.error (.unknownOperator (String.ofList first)))

/-! ### Tokens -/

theorem isBlank_of_isDigit {c : Char} {d : Nat} (h : IsDigit c d) :
  isBlank c = false
  := by
  have rows : Solid (lowerDigits ++ upperDigits) := by decide
  apply rows c
  rw [List.mem_append]
  apply h.imp List.mem_of_getElem? List.mem_of_getElem?

theorem solid_of_digits {digits : List Char} {values : List Nat}
    (h : List.Forall₂ IsDigit digits values) :
  Solid digits
  := by
  induction h with
  | nil => nofun
  | cons hd _ ih => apply Solid.cons (isBlank_of_isDigit hd) ih

theorem solid_of_magnitude {token : List Char} {n : Nat} (h : Magnitude token n) :
  Solid token
  := by
  obtain ⟨before, digits, values, hbefore, -, hvalues⟩ := h
  have hsolid : Solid before := by
    rcases hbefore with rfl | rfl | rfl <;> decide
  intro c hc
  apply (List.mem_append.mp hc).elim (hsolid c) (solid_of_digits hvalues c)

/-- There are no blanks in a token that denotes an integer. -/
theorem solid_of_denotes {token : List Char} {n : Int} (h : Denotes token n) :
  Solid token
  := by
  cases h with
  | unsigned h => apply solid_of_magnitude h
  | plus h => apply Solid.cons rfl (solid_of_magnitude h)
  | minus h => apply Solid.cons rfl (solid_of_magnitude h)

/-- A token that denotes an integer is not empty. -/
theorem ne_nil_of_denotes {token : List Char} {n : Int} (h : Denotes token n) :
  token ≠ []
  := by
  rintro rfl
  cases (Number.Hex.integer?_eq_some_iff [] n).mpr h

theorem bind_ofInt?_eq_some_iff (token : List Char) (n : Int128) :
  (Number.Hex.integer? token).bind Int128.ofInt? = some n ↔ Denotes token n.val
  := by
  rw [Option.bind_eq_some_iff, ← Number.Hex.integer?_eq_some_iff]
  constructor
  · rintro ⟨k, hk, hn⟩
    rw [(Int128.ofInt?_eq_some_iff k n).mp hn, hk]
  · intro h
    exact ⟨n.val, h, Int128.ofInt?_val n⟩

/-- A token is read as the integer that it denotes. -/
theorem integer_eq_ok_iff (token : List Char) (n : Int128) :
  integer token = .ok n ↔ Denotes token n.val
  := by
  rw [← bind_ofInt?_eq_some_iff, integer]
  constructor
  · intro h
    split at h
    · cases h
      assumption
    · cases h
  · intro h
    rw [h]

/-- A token that denotes no integer in range is refused. -/
theorem integer_of_refused {token : List Char} (h : ∀ n : Int128, ¬ Denotes token n.val) :
  integer token = .error (.invalidNumber (String.ofList token))
  := by
  rw [integer]
  split
  · rename_i n hn
    cases h n ((bind_ofInt?_eq_some_iff token n).mp hn)
  · rfl

/-- A token means what reading the integer gives. -/
theorem ofToken_iff (op : Operator) (token : List Char)
    (r : Except MatcherError NumberMatcher) :
  OfToken op token r ↔ (integer token).map (compare op) = r
  := by
  constructor
  · rintro (⟨n, h⟩ | h)
    · rw [(integer_eq_ok_iff token n).mpr h]
      rfl
    · rw [integer_of_refused h]
      rfl
  · rintro rfl
    by_cases h : ∃ n : Int128, Denotes token n.val
    · obtain ⟨n, hn⟩ := h
      rw [(integer_eq_ok_iff token n).mpr hn]
      apply OfToken.value n hn
    · have hrefused : ∀ n : Int128, ¬ Denotes token n.val := not_exists.mp h
      rw [integer_of_refused hrefused]
      apply OfToken.refused hrefused

/-- What is read as an operator is its token. -/
theorem operatorOf_eq_ok_iff (first : List Char) (op : Operator) :
  operatorOf first = .ok op ↔ op.token.toList = first
  := by
  unfold operatorOf
  constructor
  · intro h
    split at h
    · rename_i op' hop
      cases h
      rw [Operator.token_of_ofToken? hop, String.toList_ofList]
    · cases h
  · rintro rfl
    rw [String.ofList_toList, Operator.ofToken?_token]

theorem operatorOf_eq_error {first : List Char}
    (h : ∀ op : Operator, op.token.toList ≠ first) :
  operatorOf first = .error (.unknownOperator (String.ofList first))
  := by
  unfold operatorOf
  split
  · rename_i op hop
    exfalso
    apply h op
    rw [Operator.token_of_ofToken? hop, String.toList_ofList]
  · rfl

/-! ### Texts -/

/-- A text without inner blanks is read as a token. -/
theorem ofText_of_solid {text : String} {token : List Char} (hne : text ≠ "")
    (htrim : Trimmed text.toList token) (hsolid : Solid token) :
  ofText text = (integer token).map (compare .eq)
  := by
  have hnone : Text.splitAtBlank? token = none :=
    (Text.splitAtBlank?_eq_none_iff token).mpr hsolid
  rw [ofText, if_neg hne, (Text.trim_eq_iff _ _).mpr htrim]
  simp only [hnone]
  cases integer token <;> rfl

/-- A text with inner blanks is read as an operator and a token. -/
theorem ofText_of_cut {text : String} {body first token : List Char}
    (htrim : Trimmed text.toList body) (hcut : Cut body first token) :
  ofText text = (operatorOf first).bind fun op => (integer token).map (compare op)
  := by
  have hne : text ≠ "" := by
    rintro rfl
    obtain ⟨before, after, htext, -⟩ := htrim
    obtain ⟨gap, hbody, -, -, hgap, -⟩ := hcut
    simp [hbody, hgap] at htext
  rw [ofText, if_neg hne, (Text.trim_eq_iff _ _).mpr htrim]
  simp only [(Text.splitAtBlank?_eq_some_iff _ _ _).mpr hcut]
  cases operatorOf first with
  | error e => rfl
  | ok op => cases integer token <;> rfl

theorem means_ofText (text : String) :
  Means text.toList (ofText text)
  := by
  by_cases hne : text = ""
  · subst hne
    apply Means.absent
  · have htrim := Text.trimmed_trim text.toList
    cases hsplit : Text.splitAtBlank? (Text.trim text.toList) with
    | none =>
      have hsolid := (Text.splitAtBlank?_eq_none_iff _).mp hsplit
      rw [ofText_of_solid hne htrim hsolid]
      apply Means.bare _ htrim hsolid ((ofToken_iff _ _ _).mpr rfl)
      rw [Ne, String.toList_eq_nil_iff]
      apply hne
    | some parts =>
      obtain ⟨first, token⟩ := parts
      have hcut := (Text.splitAtBlank?_eq_some_iff _ _ _).mp hsplit
      rw [ofText_of_cut htrim hcut]
      by_cases hop : ∃ op : Operator, op.token.toList = first
      · obtain ⟨op, rfl⟩ := hop
        rw [(operatorOf_eq_ok_iff _ op).mpr rfl]
        apply Means.operator htrim hcut ((ofToken_iff _ _ _).mpr rfl)
      · have hnone : ∀ op : Operator, op.token.toList ≠ first := not_exists.mp hop
        rw [operatorOf_eq_error hnone]
        apply Means.unknown htrim hcut hnone

/-- A text is read as what it means, and has no other meaning. -/
theorem ofText_eq_iff (text : String) (r : Except MatcherError NumberMatcher) :
  ofText text = r ↔ Means text.toList r
  := by
  constructor
  · rintro rfl
    apply means_ofText
  · generalize htext : text.toList = cs
    intro h
    cases h with
    | absent =>
      obtain rfl := String.toList_eq_nil_iff.mp htext
      rfl
    | bare hne htrim hsolid h =>
      subst htext
      rw [← (ofToken_iff _ _ _).mp h]
      apply ofText_of_solid _ htrim hsolid
      rintro rfl
      apply hne rfl
    | operator htrim hcut h =>
      subst htext
      rw [ofText_of_cut htrim hcut, (operatorOf_eq_ok_iff _ _).mpr rfl,
        ← (ofToken_iff _ _ _).mp h]
      rfl
    | unknown htrim hcut h =>
      subst htext
      rw [ofText_of_cut htrim hcut, operatorOf_eq_error h]
      rfl

end MatchCriteria.NumberMatcher
