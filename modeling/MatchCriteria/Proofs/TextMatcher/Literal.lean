import MatchCriteria.Proofs.Text.Boundary
import MatchCriteria.TextMatcher

/-!
# Literals

A literal matches the bytes among which its own stand together.  Of a text these are the bytes of
characters, so a literal matches a text exactly when it is a part of it.
-/

namespace MatchCriteria.TextMatcher

/-- A part is found exactly where it is. -/
theorem isPart_iff (part bytes : List UInt8) :
  isPart part bytes = true ↔ part <:+: bytes
  := by
  induction bytes with
  | nil => rw [isPart, List.isEmpty_iff, List.infix_nil]
  | cons b bytes ih =>
    rw [isPart, Bool.or_eq_true, List.isPrefixOf_iff_prefix, ih, List.infix_cons_iff]

theorem matches_literal (v : String) (candidate : ByteArray) :
  (literal v).Matches candidate = true ↔
    ∃ before after, candidate.data.toList = before ++ Text.utf8 v.toList ++ after
  := by
  rw [Matches, isPart_iff]
  constructor
  · rintro ⟨before, after, h⟩
    exact ⟨before, after, h.symm⟩
  · rintro ⟨before, after, h⟩
    exact ⟨before, after, h.symm⟩

/-- Bytes are known as a list. -/
theorem eq_append_toUTF8_append_iff (candidate before after : ByteArray) (v : String) :
  candidate = before ++ v.toUTF8 ++ after ↔
    candidate.data.toList = before.data.toList ++ Text.utf8 v.toList ++ after.data.toList
  := by
  rw [ByteArray.ext_iff, ← Array.toList_inj, ByteArray.data_append, ByteArray.data_append,
    Array.toList_append, Array.toList_append, Text.toList_toUTF8]

/-- Wherever the bytes of a text that is not empty stand in those of another, the characters before
it and behind it are texts. -/
theorem exists_of_toUTF8_eq_append {v text : String} {before after : ByteArray} (hv : v ≠ "")
    (h : text.toUTF8 = before ++ v.toUTF8 ++ after) :
  ∃ start rest : String, text = start ++ v ++ rest ∧ start.toUTF8 = before ∧ rest.toUTF8 = after
  := by
  have hne : v.toList ≠ [] := by
    rwa [Ne, String.toList_eq_nil_iff]
  rw [eq_append_toUTF8_append_iff, Text.toList_toUTF8] at h
  obtain ⟨start, rest, htext, hstart, hrest⟩ := Text.exists_of_utf8_eq_append_append hne h
  have htoUTF8 {cs : List Char} {bytes : ByteArray} (h : Text.utf8 cs = bytes.data.toList) :
      (String.ofList cs).toUTF8 = bytes := by
    rw [ByteArray.ext_iff, ← Array.toList_inj, Text.toList_toUTF8, String.toList_ofList, h]
  use String.ofList start, String.ofList rest
  refine ⟨?_, htoUTF8 hstart, htoUTF8 hrest⟩
  rw [← String.toList_inj, String.toList_append, String.toList_append, String.toList_ofList,
    String.toList_ofList, htext]

/-- A literal matches bytes exactly when they are its own with some bytes before them and some
behind, and a text exactly when it is the literal with some texts before it and behind.  Where the
literal is not empty, its bytes stand in those of a text only between whole characters. -/
theorem matches_literal_iff (v : String) :
  (∀ candidate : ByteArray, (literal v).Matches candidate = true ↔
    ∃ before after : ByteArray, candidate = before ++ v.toUTF8 ++ after) ∧
  (∀ text : String, (literal v).Matches text.toUTF8 = true ↔
    ∃ start rest : String, text = start ++ v ++ rest) ∧
  ∀ (text : String) (before after : ByteArray), v ≠ "" →
    text.toUTF8 = before ++ v.toUTF8 ++ after →
      ∃ start rest : String,
        text = start ++ v ++ rest ∧ start.toUTF8 = before ∧ rest.toUTF8 = after
  := by
  have hbytes (candidate : ByteArray) : (literal v).Matches candidate = true ↔
      ∃ before after : ByteArray, candidate = before ++ v.toUTF8 ++ after := by
    rw [matches_literal]
    constructor
    · rintro ⟨before, after, h⟩
      use before.toByteArray, after.toByteArray
      rw [eq_append_toUTF8_append_iff, List.toList_data_toByteArray, List.toList_data_toByteArray,
        h]
    · rintro ⟨before, after, h⟩
      exact ⟨_, _, (eq_append_toUTF8_append_iff _ _ _ _).mp h⟩
  refine ⟨hbytes, ?_, fun text before after hv h => exists_of_toUTF8_eq_append hv h⟩
  intro text
  rw [hbytes]
  constructor
  · rintro ⟨before, after, h⟩
    by_cases hv : v = ""
    · subst hv
      use "", text
      rw [String.append_empty, String.empty_append]
    · obtain ⟨start, rest, htext, -, -⟩ := exists_of_toUTF8_eq_append hv h
      exact ⟨start, rest, htext⟩
  · rintro ⟨start, rest, rfl⟩
    use start.toUTF8, rest.toUTF8
    rw [eq_append_toUTF8_append_iff, Text.toList_toUTF8, Text.toList_toUTF8, Text.toList_toUTF8,
      String.toList_append, String.toList_append, Text.utf8_append, Text.utf8_append]

/-- A literal of two bytes, behind a byte that belongs to no text, and between characters of one
byte. -/
theorem matches_literal_iff_of_accent :
  (literal "é").Matches ⟨#[0xFF, 0xC3, 0xA9]⟩ = true ∧
    ∃ start rest : String,
      "née" = start ++ "é" ++ rest ∧ start.toUTF8 = "n".toUTF8 ∧ rest.toUTF8 = "e".toUTF8
  := by
  obtain ⟨hbytes, -, hbetween⟩ := matches_literal_iff "é"
  constructor
  · rw [hbytes]
    exact ⟨⟨#[0xFF]⟩, .empty, rfl⟩
  · apply hbetween "née" "n".toUTF8 "e".toUTF8 (by decide) rfl

end MatchCriteria.TextMatcher
