import MatchCriteria.Text.Utf8
import Mathlib.Data.List.Basic

/-!
# Bytes of texts

Bytes are a text when they are those of some characters.  No character but the line feed has
a byte that is a line feed, so bytes can be cut at line feeds before or after they are taken
for a text: they are a text exactly when each line of them is.
-/

namespace MatchCriteria.Text

/-- The bytes are those of a text. -/
def IsText (bytes : List UInt8) : Prop := ∃ cs : List Char, utf8 cs = bytes

theorem toList_toUTF8 (text : String) :
  text.toUTF8.data.toList = utf8 text.toList
  := by
  have h : text.toUTF8 = text.toList.utf8Encode := by
    rw [← String.toByteArray_ofList, String.ofList_toList, String.toUTF8_eq_toByteArray]
  rw [h, List.utf8Encode, List.data_toByteArray]
  rfl

/-- No character is written without bytes. -/
theorem length_le_utf8 (cs : List Char) :
  cs.length ≤ (utf8 cs).length
  := by
  induction cs with
  | nil => apply Nat.zero_le
  | cons c cs ih =>
    have hc : 0 < (String.utf8EncodeChar c).length := by
      rw [String.length_utf8EncodeChar]
      apply Char.utf8Size_pos
    rw [utf8, List.flatMap_cons, List.length_append, List.length_cons, ← utf8]
    omega

theorem toUTF8_of_fromUTF8? {bytes : ByteArray} {text : String}
    (h : String.fromUTF8? bytes = some text) :
  text.toUTF8 = bytes
  := by
  unfold String.fromUTF8? at h
  split at h
  · cases h
    rfl
  · cases h

/-- Bytes are read when they are those of a text. -/
theorem isText_iff_fromUTF8? (bytes : ByteArray) :
  IsText bytes.data.toList ↔ ∃ text, String.fromUTF8? bytes = some text
  := by
  constructor
  · rintro ⟨cs, h⟩
    use String.ofList cs
    have hbytes : bytes = (String.ofList cs).toUTF8 := by
      apply ByteArray.ext
      rw [← Array.toList_inj, toList_toUTF8, String.toList_ofList, h]
    rw [hbytes, fromUTF8?_toUTF8]
  · rintro ⟨text, h⟩
    use text.toList
    rw [← toList_toUTF8, toUTF8_of_fromUTF8? h]

/-! ### Lines -/

/-- A line feed is a byte of no other character. -/
theorem mem_utf8EncodeChar_iff (c : Char) :
  10 ∈ String.utf8EncodeChar c ↔ c = '\n'
  := by
  constructor
  · intro h
    have eq_ten (n : Nat) : (10 : UInt8) = UInt8.ofNat n ↔ n % 256 = 10 := by
      rw [← UInt8.toNat_inj, UInt8.toNat_ofNat']
      exact eq_comm
    have hval : c.val.toNat = 10 := by
      simp only [String.utf8EncodeChar] at h
      -- All bytes of a character of several bytes have their highest bit set.
      split_ifs at h <;> simp only [List.mem_cons, List.not_mem_nil, or_false, eq_ten] at h <;>
        omega
    rw [← Char.ofNat_toNat c, Char.toNat, hval]
  · rintro rfl
    decide

theorem not_mem_of_mem_splitOn {line cs : List Char} (h : line ∈ cs.splitOn '\n') :
  '\n' ∉ line
  := by
  induction cs generalizing line with
  | nil =>
    rw [List.splitOn_nil, List.mem_singleton] at h
    subst h
    apply List.not_mem_nil
  | cons c cs ih =>
    rw [List.splitOn_cons_eq_if_modifyHead] at h
    cases hsplit : cs.splitOn '\n' with
    | nil => cases List.splitOn_ne_nil '\n' cs hsplit
    | cons first lines =>
      rw [hsplit] at h ih
      split at h
      · rcases List.mem_cons.mp h with rfl | hmem
        · apply List.not_mem_nil
        · apply ih hmem
      · rename_i hc
        rw [beq_iff_eq] at hc
        rcases List.mem_cons.mp h with rfl | hmem
        · rw [List.mem_cons, not_or]
          apply And.intro (Ne.symm hc) (ih List.mem_cons_self)
        · apply ih (List.mem_cons_of_mem _ hmem)

theorem utf8_intercalate (lines : List (List Char)) :
  utf8 (['\n'].intercalate lines) = [10].intercalate (lines.map utf8)
  := by
  induction lines with
  | nil => rfl
  | cons line lines ih =>
    cases lines with
    | nil =>
      rw [List.intercalate_singleton, List.map_singleton, List.intercalate_singleton]
    | cons line' lines =>
      rw [List.map_cons] at ih
      rw [List.intercalate_cons_cons, List.map_cons, List.map_cons, List.intercalate_cons_cons,
        ← ih, utf8, List.flatMap_append, List.flatMap_append]
      rfl

/-- The lines of the bytes of a text are the bytes of its lines. -/
theorem splitOn_utf8 (cs : List Char) :
  (utf8 cs).splitOn 10 = (cs.splitOn '\n').map utf8
  := by
  have hcs : ['\n'].intercalate (cs.splitOn '\n') = cs := List.intercalate_splitOn '\n'
  have hlines : ∀ line ∈ (cs.splitOn '\n').map utf8, 10 ∉ line := by
    intro _ hline hmem
    obtain ⟨line, hmemline, rfl⟩ := List.mem_map.mp hline
    obtain ⟨c, hc, hten⟩ := List.mem_flatMap.mp hmem
    obtain rfl := (mem_utf8EncodeChar_iff c).mp hten
    apply not_mem_of_mem_splitOn hmemline hc
  have hne : (cs.splitOn '\n').map utf8 ≠ [] := by
    simp [List.splitOn_ne_nil]
  rw [← hcs, utf8_intercalate, List.splitOn_intercalate 10 hlines hne, hcs]

/-- Bytes are a text when each line of them is. -/
theorem isText_iff_lines (bytes : List UInt8) :
  IsText bytes ↔ ∀ line ∈ bytes.splitOn 10, IsText line
  := by
  constructor
  · rintro ⟨cs, rfl⟩ line hline
    rw [splitOn_utf8, List.mem_map] at hline
    obtain ⟨cs, -, hcs⟩ := hline
    exact ⟨cs, hcs⟩
  · intro h
    choose! textOf htextOf using h
    use ['\n'].intercalate ((bytes.splitOn 10).map textOf)
    have hmap : (bytes.splitOn 10).map (utf8 ∘ textOf) = bytes.splitOn 10 :=
      (List.map_congr_left htextOf).trans (List.map_id' _)
    rw [utf8_intercalate, List.map_map, hmap, List.intercalate_splitOn]

end MatchCriteria.Text
