import MatchCriteria.Proofs.Json.Decimal
import MatchCriteria.Proofs.JsonMatchers
import MatchCriteria.Proofs.Number.Encoding

/-!
# Integers as number matchers

The matcher of one integer is read from the integer in JSON, or from a string with its hexadecimal
digits, or made from an integer of 64 bits, and these agree.  JSON gives matchers of exactly the
integers that fit 64 bits, signed or not.  Every other number is an error, and never taken for an
integer near it.
-/

namespace MatchCriteria.NumberMatcher

open Json (IsDecimal Value)
open Number (Int128)

/-- The integer fits 64 bits, signed or not. -/
def FitsWord (n : Int) : Prop := -2 ^ 63 ≤ n ∧ n ≤ 2 ^ 64 - 1

/-- The matcher is that of an integer. -/
def IsOfInteger (m : NumberMatcher) (n : Int) : Prop := ∃ i : Int128, i.val = n ∧ m = ofInteger i

/-- The forms in which an integer is given are the same matcher. -/
structure FormsAgree (n : Int) : Prop where
  /-- The integer in decimal is a matcher when it fits a word. -/
  accepted : (∃ m, Json.readAs (worded ofJson) (toString n) = .ok m) ↔ FitsWord n
  /-- So it is when it is read as a value first. -/
  accepted_value : (∃ v m, Json.read (toString n) = .ok v ∧ ofJson v = .ok m) ↔ FitsWord n
  /-- The matcher that is read is that of the integer. -/
  read (m : NumberMatcher) : Json.readAs (worded ofJson) (toString n) = .ok m → IsOfInteger m n
  /-- So it is when it is read as a value first. -/
  read_value (v : Value) (m : NumberMatcher) :
    Json.read (toString n) = .ok v → ofJson v = .ok m → IsOfInteger m n
  /-- A signed integer of 64 bits is made into the matcher of it. -/
  signed (k : Int64) : k.toInt = n → IsOfInteger (ofInt64 k) n
  /-- So is an unsigned one. -/
  unsigned (k : UInt64) : k.toNat = n → IsOfInteger (ofUInt64 k) n
  /-- The string of its written form is the matcher. -/
  string (m : NumberMatcher) : IsOfInteger m n → ofJson (.string m.render) = .ok m
  /-- It has one matcher. -/
  unique (m m' : NumberMatcher) : IsOfInteger m n → IsOfInteger m' n → m = m'

theorem IsOfInteger.unique {m m' : NumberMatcher} {n : Int} (h : IsOfInteger m n)
    (h' : IsOfInteger m' n) :
  m = m'
  := by
  obtain ⟨i, hi, rfl⟩ := h
  obtain ⟨j, hj, rfl⟩ := h'
  rw [Int128.ext_val (hi.trans hj.symm)]

/-! ### JSON values -/

/-- An integer in JSON fits a word, and is the matcher of itself. -/
theorem ofJson_integer (i : Json.Integer) :
  FitsWord i.val ∧ ∃ m, ofJson (.integer i) = .ok m ∧ IsOfInteger m i.val
  := by
  have hlower := i.lower
  have hupper := i.upper
  constructor
  · rw [FitsWord]
    omega
  · exact ⟨_, rfl, _, rfl, rfl⟩

theorem exists_integer_of_fitsWord {n : Int} (h : FitsWord n) :
  ∃ i : Json.Integer, i.val = n
  := by
  obtain ⟨hlower, hupper⟩ := h
  exact ⟨⟨n, by omega, by omega⟩, rfl⟩

theorem ofText_ne_unacceptedKind (text : String) (kind : Json.Kind) :
  ofText text ≠ .error (.unacceptedKind kind)
  := by
  intro h
  have hmeans := means_ofText text
  rw [h] at hmeans
  generalize text.toList = cs at hmeans
  cases hmeans with
  | bare _ _ _ htoken => cases htoken
  | operator _ _ htoken => cases htoken

/-- Exactly what is neither a string nor an integer is refused for its kind. -/
theorem ofJson_eq_error_kind_iff (v : Value) (kind : Json.Kind) :
  ofJson v = .error (.unacceptedKind kind) ↔
    kind = v.kind ∧ v.kind ≠ .string ∧ v.kind ≠ .integer
  := by
  cases v with
  | string text => simp [ofJson, Value.kind, ofText_ne_unacceptedKind]
  | _ => simp [ofJson, Value.kind, eq_comm]

/-- The kind in a refusal is never that of a string or an integer, so of a number it is that of a
float. -/
theorem name_of_error_kind {v : Value} {kind : Json.Kind}
    (h : ofJson v = .error (.unacceptedKind kind)) :
  kind.name ≠ "integer" ∧ kind.name ≠ "string" ∧
    (v.kind = .integer ∨ v.kind = .float → kind.name = "float")
  := by
  obtain ⟨rfl, hstring, hinteger⟩ := (ofJson_eq_error_kind_iff v kind).mp h
  generalize v.kind = kind at hstring hinteger ⊢
  cases kind with
  | string => cases hstring rfl
  | integer => cases hinteger rfl
  | _ => decide

/-! ### JSON texts -/

/-- A JSON text is a matcher when it is a string with the written form of one, or an integer in
decimal that fits a word. -/
theorem readAs_eq_ok_iff (text : String) (m : NumberMatcher) :
  Json.readAs (worded ofJson) text = .ok m ↔
    (∃ s, Json.read text = .ok (.string s) ∧ ofText s = .ok m) ∨
      ∃ n, FitsWord n ∧ IsDecimal text n ∧ IsOfInteger m n
  := by
  rw [(readsValues ofJson text).single]
  constructor
  · rintro ⟨v, hread, hv⟩
    cases v with
    | string s => exact Or.inl ⟨s, hread, hv⟩
    | integer i =>
      obtain ⟨hfits, m', hm', hi⟩ := ofJson_integer i
      cases hm'.symm.trans hv
      exact Or.inr ⟨i.val, hfits, (Json.read_eq_integer_iff text i).mp hread, hi⟩
    | _ => cases hv
  · rintro (⟨s, hread, hs⟩ | ⟨n, hfits, hdecimal, hm⟩)
    · exact ⟨.string s, hread, hs⟩
    · obtain ⟨i, rfl⟩ := exists_integer_of_fitsWord hfits
      obtain ⟨-, m', hm', hi⟩ := ofJson_integer i
      rw [← hi.unique hm]
      exact ⟨.integer i, (Json.read_eq_integer_iff text i).mpr hdecimal, hm'⟩

/-- The text of an integer is its matcher, if the integer fits a word. -/
theorem readAs_toString_iff (n : Int) (m : NumberMatcher) :
  Json.readAs (worded ofJson) (toString n) = .ok m ↔ FitsWord n ∧ IsOfInteger m n
  := by
  rw [readAs_eq_ok_iff]
  constructor
  · rintro (⟨s, hread, -⟩ | ⟨k, hfits, hdecimal, hm⟩)
    · cases Json.kind_of_read_toString hread <;> contradiction
    · obtain rfl := (Json.isDecimal_toString_iff n k).mp hdecimal
      exact ⟨hfits, hm⟩
  · rintro ⟨hfits, hm⟩
    exact Or.inr ⟨n, hfits, (Json.isDecimal_toString_iff n n).mpr rfl, hm⟩

theorem exists_isOfInteger {n : Int} (h : FitsWord n) :
  ∃ m, IsOfInteger m n
  := by
  obtain ⟨i, rfl⟩ := exists_integer_of_fitsWord h
  obtain ⟨-, m, -, hm⟩ := ofJson_integer i
  exact ⟨m, hm⟩

theorem formsAgree (n : Int) :
  FormsAgree n
  := by
  have hread (m : NumberMatcher) := readAs_toString_iff n m
  have hvalue (m : NumberMatcher) :
      (∃ v, Json.read (toString n) = .ok v ∧ ofJson v = .ok m) ↔ FitsWord n ∧ IsOfInteger m n := by
    rw [← hread, (readsValues ofJson (toString n)).single]
  constructor
  case accepted =>
    simp only [hread, exists_and_left, and_iff_left_iff_imp]
    apply exists_isOfInteger
  case accepted_value =>
    rw [exists_comm]
    simp only [hvalue, exists_and_left, and_iff_left_iff_imp]
    apply exists_isOfInteger
  case read => exact fun m h => ((hread m).mp h).2
  case read_value => exact fun v m h hv => ((hvalue m).mp ⟨v, h, hv⟩).2
  case signed => exact fun k hk => ⟨_, hk, rfl⟩
  case unsigned => exact fun k hk => ⟨_, hk, rfl⟩
  case string => exact fun m _ => ofText_render m
  case unique => exact fun m m' => IsOfInteger.unique

/-- An integer is the same matcher in each form in which it is given; it is read from JSON when it
fits 64 bits.  A JSON text is a matcher only as a string or as such an integer in decimal, so no
other number is taken for one.  A value is refused for its kind when it is neither a string nor such
an integer, and the kind of a number that is refused is called float. -/
theorem integers_alike (n : Int) (text : String) (v : Value) :
  FormsAgree n ∧
  (∀ m, Json.readAs (worded ofJson) text = .ok m ↔
    (∃ s, Json.read text = .ok (.string s) ∧ ofText s = .ok m) ∨
      ∃ k, FitsWord k ∧ IsDecimal text k ∧ IsOfInteger m k) ∧
  (∀ kind, ofJson v = .error (.unacceptedKind kind) ↔
    kind = v.kind ∧ v.kind ≠ .string ∧ v.kind ≠ .integer) ∧
  ∀ kind, ofJson v = .error (.unacceptedKind kind) →
    kind.name ≠ "integer" ∧ kind.name ≠ "string" ∧
      (v.kind = .integer ∨ v.kind = .float → kind.name = "float")
  := ⟨formsAgree n, readAs_eq_ok_iff text, ofJson_eq_error_kind_iff v,
    fun _ => name_of_error_kind⟩

/-- The least integer that fits 64 bits is a matcher; the first one that is too large is none, nor
is a number with an exponent, which is refused as a float. -/
theorem integers_alike_of_ends :
  (∃ m, Json.readAs (worded ofJson) "-9223372036854775808" = .ok m) ∧
    (¬ ∃ m, Json.readAs (worded ofJson) "18446744073709551616" = .ok m) ∧
    ofJson (.float 1e3) = .error (.unacceptedKind .float) ∧ Json.Kind.float.name = "float"
  := by
  obtain ⟨hleast, -, -, -⟩ := integers_alike (-9223372036854775808) "" .null
  obtain ⟨hlarge, -, hkind, hname⟩ := integers_alike 18446744073709551616 "" (.float 1e3)
  have hrefused : ofJson (.float 1e3) = .error (.unacceptedKind .float) := by
    rw [hkind]
    exact ⟨rfl, by decide, by decide⟩
  obtain ⟨-, -, hfloat⟩ := hname .float hrefused
  refine ⟨hleast.accepted.mpr ⟨by decide, by decide⟩, ?_, hrefused, hfloat (Or.inr rfl)⟩
  intro h
  obtain ⟨-, hupper⟩ := hlarge.accepted.mp h
  absurd hupper
  decide

end MatchCriteria.NumberMatcher
