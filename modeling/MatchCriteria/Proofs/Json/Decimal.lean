import Mathlib
import MatchCriteria.Proofs.Json.Layout
import MatchCriteria.Proofs.Json.Streaming

/-!
# Texts that are integers

Reading digits and writing them are inverse to each other where the first digit is not a zero.
Hence a text is read as an integer that fits a word only when it is the integer in decimal, with
blanks around it: a number with a fraction, an exponent, a needless zero or a sign before zero never
is, nor is one that is too large.
-/

namespace MatchCriteria.Json

/-- The text is the integer in decimal, with nothing but blanks around it. -/
def IsDecimal (text : String) (n : Int) : Prop :=
  ∃ before after : List Char, Blank before ∧ Blank after ∧
    text.toList = before ++ (toString n).toList ++ after

/-! ### Digits -/

/-- A digit is what is written for its value. -/
theorem toDigits_digitValue {c : Char} (h : isDigit c = true) :
  digitValue c < 10 ∧ Nat.toDigits 10 (digitValue c) = [c]
  := by
  have row : ∀ d < 10, Nat.digitChar d = Char.ofNat (48 + d) := by decide
  have hdigit : c.isDigit = true := h
  obtain ⟨hlow, hhigh⟩ := Char.isDigit_iff_toNat.mp hdigit
  have hlow : 48 ≤ c.toNat := hlow
  have hhigh : c.toNat ≤ 57 := hhigh
  have hlt : digitValue c < 10 := by
    rw [digitValue]
    omega
  have hc : 48 + digitValue c = c.toNat := by
    rw [digitValue]
    omega
  rw [Nat.toDigits_of_lt_base hlt, row _ hlt, hc, Char.ofNat_toNat]
  exact ⟨hlt, rfl⟩

/-- Digits behind those of a number are the digits of a number. -/
theorem toDigits_append_digits {acc : Nat} (hacc : 0 < acc) {digits : List Char}
    (hdigits : ∀ c ∈ digits, isDigit c = true) :
  Nat.toDigits 10 acc ++ digits = Nat.toDigits 10 (Nat.ofDigitChars 10 digits acc)
  := by
  induction digits generalizing acc with
  | nil => rw [List.append_nil, Nat.ofDigitChars_nil]
  | cons c digits ih =>
    obtain ⟨hlt, hc⟩ := toDigits_digitValue (hdigits c List.mem_cons_self)
    have hstep := Nat.toDigits_append_toDigits (b := 10) (by decide) hacc hlt
    rw [hc] at hstep
    calc Nat.toDigits 10 acc ++ c :: digits
        = Nat.toDigits 10 (10 * acc + digitValue c) ++ digits := by
          rw [← hstep, List.append_assoc, List.singleton_append]
      _ = Nat.toDigits 10 (Nat.ofDigitChars 10 digits (10 * acc + digitValue c)) := by
          apply ih (by omega) fun d hd => hdigits d (List.mem_cons_of_mem c hd)
      _ = Nat.toDigits 10 (Nat.ofDigitChars 10 (c :: digits) acc) := by
          rw [Nat.ofDigitChars_cons]
          rfl

/-- The digits that are read are the first ones of the text. -/
theorem exists_of_significand {acc n : Nat} {cs rest : List Char}
    (h : significand acc cs = (n, rest)) :
  ∃ digits, cs = digits ++ rest ∧ (∀ c ∈ digits, isDigit c = true) ∧
    n = Nat.ofDigitChars 10 digits acc
  := by
  induction cs generalizing acc with
  | nil =>
    cases h
    exact ⟨[], rfl, by simp, Nat.ofDigitChars_nil.symm⟩
  | cons c cs ih =>
    rw [significand] at h
    split at h
    case isTrue hc =>
      rw [Bool.and_eq_true] at hc
      obtain ⟨digits, rfl, hdigits, rfl⟩ := ih h
      refine ⟨c :: digits, rfl, ?_, ?_⟩
      · rw [List.forall_mem_cons]
        exact ⟨hc.1, hdigits⟩
      · rw [Nat.ofDigitChars_cons]
        rfl
    case isFalse =>
      cases h
      exact ⟨[], rfl, by simp, Nat.ofDigitChars_nil.symm⟩

/-- What is read as a number is written for it, where a zero stands alone. -/
theorem eq_toDigits_append {c : Char} {n : Nat} {cs rest : List Char} (hc : isDigit c = true)
    (h : (if c = '0' then (0, cs) else significand 0 (c :: cs)) = (n, rest)) :
  c :: cs = Nat.toDigits 10 n ++ rest
  := by
  split at h
  case isTrue hzero =>
    cases h
    rw [hzero, Nat.toDigits_zero, List.singleton_append]
  case isFalse hzero =>
    obtain ⟨hlt, hone⟩ := toDigits_digitValue hc
    have hpos : 0 < digitValue c := by
      rw [Nat.pos_iff_ne_zero]
      intro hvalue
      rw [hvalue, Nat.toDigits_zero] at hone
      cases hone
      cases hzero rfl
    have hfits : 10 * 0 + digitValue c < 0x10000000000000000 := by omega
    rw [significand, hc, Bool.true_and, if_pos (decide_eq_true hfits)] at h
    obtain ⟨digits, rfl, hdigits, rfl⟩ := exists_of_significand h
    rw [Nat.mul_zero, Nat.zero_add, ← toDigits_append_digits hpos hdigits, hone]
    rfl

/-! ### Integers -/

theorem val_of_ofInt? {n : Int} {i : Integer} (h : Integer.ofInt? n = some i) :
  i.val = n
  := by
  rw [Integer.ofInt?] at h
  split at h
  · cases h
    rfl
  · cases h

/-- An integer is read from what is written for it, and zero has no sign. -/
theorem exists_of_number_integer {negative : Bool} {cs rest : List Char} {i : Integer}
    (h : number negative cs = .ok (.integer i, rest)) :
  ∃ n : Nat, cs = Nat.toDigits 10 n ++ rest ∧
    i.val = (if negative = true then -(n : Int) else n) ∧ ¬ (negative = true ∧ n = 0)
  := by
  cases cs with
  | nil => cases h
  | cons c cs =>
    rw [number] at h
    split at h
    case isFalse => cases h
    case isTrue hc =>
      split at h
      rename_i n after hread
      split at h
      case isTrue => cases h
      case isFalse =>
        -- With a fraction or an exponent the number would be no integer.
        split at h
        case h_1 => cases kind_of_fraction h
        case h_2 => cases kind_of_exponent h
        case h_3 => cases kind_of_exponent h
        case h_4 =>
          simp only at h
          split at h
          case h_2 => cases kind_of_float h
          case h_1 j hj =>
            split at h
            case isFalse => cases kind_of_float h
            case isTrue hplain =>
              cases h
              obtain ⟨hall, hzero⟩ := hplain
              have hrest : after.dropWhile isDigit = after := by
                have happend := List.takeWhile_append_dropWhile (p := isDigit) (l := after)
                rwa [List.isEmpty_iff.mp hall, List.nil_append] at happend
              rw [Bool.not_eq_true', decide_eq_false_iff_not] at hzero
              use n
              rw [hrest]
              exact ⟨eq_toDigits_append hc hread, val_of_ofInt? hj, hzero⟩

/-- Behind its blanks a value that is an integer starts with the integer in decimal. -/
theorem exists_of_value_integer {depth : Nat} {cs rest : List Char} {i : Integer}
    (h : value depth cs = .ok (.integer i, rest)) :
  skipBlank cs = (toString i.val).toList ++ rest
  := by
  obtain ⟨array, object, hvalue⟩ := exists_valueBy depth
  rw [hvalue, valueBy] at h
  rw [toList_toString]
  split at h
  case h_8 digits hstart =>
    obtain ⟨n, rfl, hi, hzero⟩ := exists_of_number_integer h
    rw [if_pos rfl] at hi
    have hpos : n ≠ 0 := fun hn => hzero ⟨rfl, hn⟩
    have hnegative : i.val < 0 := by omega
    have habs : i.val.natAbs = n := by omega
    rw [hstart, if_pos hnegative, habs, List.cons_append]
  case h_9 c digits _ _ _ _ _ _ _ hstart =>
    split at h
    case isFalse => cases h
    case isTrue hc =>
      obtain ⟨n, hdigits, hi, -⟩ := exists_of_number_integer h
      rw [if_neg Bool.false_ne_true] at hi
      have hnonneg : ¬ i.val < 0 := by omega
      have habs : i.val.natAbs = n := by omega
      rw [hstart, if_neg hnonneg, habs, hdigits]
  case h_1 => cases h
  all_goals
    obtain ⟨_, -, hother⟩ := exists_of_bind_eq_ok h
    cases hother

/-- There are no blanks in the text of an integer. -/
theorem isBlank_of_mem_toString {n : Int} {c : Char} (h : c ∈ (toString n).toList) :
  isBlank c = false
  := by
  have hdigits : ∀ d ∈ Nat.toDigits 10 n.natAbs, isBlank d = false := by
    intro d hd
    apply isBlank_of_isDigit
    apply Nat.isDigit_of_mem_toDigits (by decide) (by decide) hd
  rw [toList_toString] at h
  split at h
  · rcases List.mem_cons.mp h with rfl | hc
    · decide
    · apply hdigits c hc
  · apply hdigits c h

/-- The text of an integer is that of no other one, whatever blanks are around it. -/
theorem isDecimal_toString_iff (n k : Int) :
  IsDecimal (toString n) k ↔ k = n
  := by
  constructor
  · rintro ⟨before, after, hbefore, hafter, htext⟩
    have hsolid {blanks : List Char} (hblanks : Blank blanks)
        (hmem : ∀ c ∈ blanks, c ∈ (toString n).toList) : blanks = [] := by
      rw [List.eq_nil_iff_forall_not_mem]
      intro c hc
      have hblank := hblanks c hc
      rw [isBlank_of_mem_toString (hmem c hc)] at hblank
      cases hblank
    obtain rfl := hsolid hbefore fun c hc => by
      rw [htext]
      apply List.mem_append_left _ (List.mem_append_left _ hc)
    obtain rfl := hsolid hafter fun c hc => by
      rw [htext]
      apply List.mem_append_right _ hc
    rw [List.nil_append, List.append_nil, String.toList_inj] at htext
    apply Int.repr_injective htext.symm
  · rintro rfl
    exact ⟨[], [], nofun, nofun, (List.append_nil _).symm⟩

/-- A text is read as an integer exactly when it is the integer in decimal. -/
theorem read_eq_integer_iff (text : String) (i : Integer) :
  read text = .ok (.integer i) ↔ IsDecimal text i.val
  := by
  constructor
  · intro h
    obtain ⟨rest, hvalue, hend⟩ := read_eq_ok_iff.mp h
    have hskip := exists_of_value_integer hvalue
    refine ⟨text.toList.takeWhile isBlank, rest, ?_, ?_, ?_⟩
    · apply List.mem_takeWhile_imp
    · apply List.dropWhile_eq_nil_iff.mp hend
    · rw [List.append_assoc, ← hskip]
      apply List.takeWhile_append_dropWhile.symm
  · rintro ⟨before, after, hbefore, hafter, htext⟩
    have hread := read_of_reads ((reads_integer depthLimit i).blank hbefore) hafter
    rwa [← htext, String.ofList_toList] at hread

/-- The text of an integer is read as a number if at all. -/
theorem kind_of_read_toString {n : Int} {v : Value} (h : read (toString n) = .ok v) :
  v.kind = .integer ∨ v.kind = .float
  := by
  obtain ⟨rest, hvalue, -⟩ := read_eq_ok_iff.mp h
  rw [toList_toString] at hvalue
  split at hvalue
  · rw [value_minus] at hvalue
    apply kind_of_number hvalue
  · obtain ⟨c, cs, hcs⟩ := List.exists_cons_of_ne_nil (@Nat.toDigits_ne_nil n.natAbs 10)
    have hc : isDigit c = true := by
      apply Nat.isDigit_of_mem_toDigits (b := 10) (n := n.natAbs) (by decide) (by decide)
      rw [hcs]
      apply List.mem_cons_self
    rw [hcs, value_digit depthLimit hc] at hvalue
    apply kind_of_number hvalue

end MatchCriteria.Json
