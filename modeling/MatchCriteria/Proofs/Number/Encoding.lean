import MatchCriteria.Proofs.Json.RoundTrip
import MatchCriteria.Proofs.Number.Grammar

/-!
# Written number matchers

The written form of a number matcher is its only normal form, and it is read back as the
matcher.  Hence different matchers are written differently, and every list of matchers is read
back from its JSON text.
-/

namespace MatchCriteria.NumberMatcher

open Json (Exact readList readList_render)
open Number (Int128 Operator)
open Number.Hex (Canonical canonical_digits canonical_iff digits denotes_render)
open Text (Cut Solid Trimmed)

/-- The normal forms of a matcher.  Absence is written as nothing.  A comparison is written as
its operator and a space, unless that is equality, a minus exactly if the value is negative,
and the digits of the value behind `0x`, in lower case and without a leading zero. -/
inductive Normal : NumberMatcher → List Char → Prop where
  | absent : Normal .absent []
  | compare (op : Operator) (n : Int128) {digits : List Char}
      (hdigits : Canonical digits n.val.natAbs) :
      Normal (.compare op n)
        ((if op = .eq then [] else op.token.toList ++ [' ']) ++
          ((if n.val < 0 then ['-'] else []) ++ '0' :: 'x' :: digits))

/-! ### The written form is normal -/

theorem toList_render_compare (op : Operator) (n : Int128) :
  (compare op n).render.toList
    = (if op = .eq then [] else op.token.toList ++ [' ']) ++ Number.Hex.render n.val
  := by
  rw [render, compare]
  simp only [String.toList_append, String.toList_ofList]
  split
  · rfl
  · rw [String.toList_append]
    rfl

theorem hexRender_eq (n : Int) :
  Number.Hex.render n = (if n < 0 then ['-'] else []) ++ '0' :: 'x' :: digits n.natAbs
  := by
  unfold Number.Hex.render
  split
  · rfl
  · rfl

/-- A text is the written form of a matcher when it is a normal form of it. -/
theorem render_eq_iff (m : NumberMatcher) (text : String) :
  m.render = text ↔ Normal m text.toList
  := by
  constructor
  · rintro rfl
    cases m with
    | absent => apply Normal.absent
    | compare op n =>
      rw [toList_render_compare, hexRender_eq]
      apply Normal.compare op n (canonical_digits n.val.natAbs)
  · generalize htext : text.toList = cs
    intro h
    rw [← String.toList_inj, htext]
    cases h with
    | absent => rfl
    | compare op n hdigits =>
      rw [toList_render_compare, hexRender_eq, (canonical_iff _ _).mp hdigits]

/-! ### The written form is read back -/

/-- There are no blanks in the written form of an integer. -/
theorem solid_hexRender (n : Int) :
  Solid (Number.Hex.render n)
  := solid_of_denotes (denotes_render n)

theorem hexRender_ne_nil (n : Int) :
  Number.Hex.render n ≠ []
  := ne_nil_of_denotes (denotes_render n)

theorem integer_hexRender (op : Operator) (n : Int128) :
  (integer (Number.Hex.render n.val)).map (compare op) = .ok (compare op n)
  := by
  rw [← ofToken_iff]
  apply OfToken.value n (denotes_render n.val)

/-- The written form of an integer with an operator before it is read as the comparison. -/
theorem ofText_token {text : String} (op : Operator) (n : Int128)
    (htext : text.toList = op.token.toList ++ [' '] ++ Number.Hex.render n.val) :
  ofText text = .ok (compare op n)
  := by
  have hop : op.token.toList ≠ [] ∧ Solid op.token.toList := by
    cases op <;> decide
  obtain ⟨hne, hsolid⟩ := hop
  have hnumber := solid_hexRender n.val
  have htrim : Trimmed text.toList text.toList := by
    apply Text.trimmed_self
    · intro c hc
      rw [htext, List.append_assoc, List.head?_append_of_ne_nil _ hne] at hc
      apply hsolid c (List.mem_of_mem_head? hc)
    · intro c hc
      rw [htext, List.getLast?_append_of_ne_nil _ (hexRender_ne_nil n.val)] at hc
      apply hnumber c (List.mem_of_mem_getLast? hc)
  have hcut : Cut text.toList op.token.toList (Number.Hex.render n.val) := by
    use [' ']
    refine ⟨htext, hsolid, by decide, by decide, ?_⟩
    intro c hc
    apply hnumber c (List.mem_of_mem_head? hc)
  rw [ofText_of_cut htrim hcut, (operatorOf_eq_ok_iff _ op).mpr rfl]
  apply integer_hexRender op n

/-- Every matcher is read back from its written form. -/
theorem ofText_render (m : NumberMatcher) :
  ofText m.render = .ok m
  := by
  cases m with
  | absent => rfl
  | compare op n =>
    have htext := toList_render_compare op n
    by_cases hop : op = .eq
    · rw [if_pos hop, List.nil_append] at htext
      subst hop
      have hsolid : Solid (compare .eq n).render.toList := by
        rw [htext]
        apply solid_hexRender
      have hne : (compare .eq n).render ≠ "" := by
        rw [Ne, ← String.toList_eq_nil_iff, htext]
        apply hexRender_ne_nil
      rw [ofText_of_solid hne hsolid.trimmed hsolid, htext]
      apply integer_hexRender .eq n
    · rw [if_neg hop] at htext
      apply ofText_token op n htext

/-! ### Matchers and their texts -/

theorem value?_eq_none_iff (m : NumberMatcher) :
  m.value? = none ↔ m = absent
  := by
  cases m with
  | absent => exact ⟨fun _ => rfl, fun _ => rfl⟩
  | compare op n =>
    constructor
    · nofun
    · nofun

theorem render_inj (m n : NumberMatcher) :
  m.render = n.render ↔ m = n
  := by
  constructor
  · intro h
    have hm := ofText_render m
    rw [h, ofText_render n] at hm
    cases hm
    rfl
  · rintro rfl
    rfl

/-- Every list of number matchers is read back from its JSON text. -/
theorem readList_render_map (ms : List NumberMatcher) :
  readList (fun v => (ofJson v).mapError MatcherError.message)
      (Json.render (.array (ms.map encode)))
    = .ok ms
  := by
  apply readList_render
  · intro m
    apply Exact.string
  · intro m
    rw [encode, ofJson, ofText_render]
    rfl

/-- Writing and reading number matchers are inverse to each other.  Each matcher is read back
from its written form, and each list of matchers from its JSON text.  Absence is the only
matcher without a value, matchers that are written alike are equal, and the written form is
the normal form. -/
theorem written_form (m n : NumberMatcher) (ms : List NumberMatcher) (text : String) :
  ofText m.render = .ok m ∧
  readList (fun v => (ofJson v).mapError MatcherError.message)
    (Json.render (.array (ms.map encode))) = .ok ms ∧
  (m.value? = none ↔ m = absent) ∧
  (m.render = n.render ↔ m = n) ∧
  (m.render = text ↔ Normal m text.toList)
  :=
  ⟨ofText_render m, readList_render_map ms, value?_eq_none_iff m, render_inj m n,
    render_eq_iff m text⟩

end MatchCriteria.NumberMatcher
