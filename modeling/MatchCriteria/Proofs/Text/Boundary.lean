import MatchCriteria.Proofs.Text.Utf8

/-!
# Characters in bytes

No byte but the first one of a character can start a character.  Hence bytes of a text that are
cut off before such a byte are cut off between two characters, and wherever the bytes of one text
stand in those of another, its characters stand in the characters of the other.
-/

namespace MatchCriteria.Text

/-- The bytes are at their end, or go on with a byte that starts a character. -/
def StartsCharacter (bytes : List UInt8) : Prop := ∀ b ∈ bytes.head?, b.IsUTF8FirstByte

theorem utf8_cons (c : Char) (cs : List Char) :
  utf8 (c :: cs) = String.utf8EncodeChar c ++ utf8 cs
  := List.flatMap_cons

theorem utf8_append (cs ds : List Char) :
  utf8 (cs ++ ds) = utf8 cs ++ utf8 ds
  := List.flatMap_append

/-- Among the bytes of a character, the first one is the one that can start a character. -/
theorem isUTF8FirstByte_iff {c : Char} {before after : List UInt8} {b : UInt8}
    (h : String.utf8EncodeChar c = before ++ b :: after) :
  b.IsUTF8FirstByte ↔ before = []
  := by
  have hindex : before.length < (String.utf8EncodeChar c).length := by
    rw [h, List.length_append, List.length_cons]
    omega
  have hb : (String.utf8EncodeChar c)[before.length] = b := by
    simp only [h, List.getElem_append_right (Nat.le_refl _), Nat.sub_self,
      List.getElem_cons_zero]
  rw [← hb, UInt8.isUTF8FirstByte_getElem_utf8EncodeChar, List.length_eq_zero_iff]

/-- A text that is not empty starts with a character. -/
theorem startsCharacter_utf8 {cs : List Char} (h : cs ≠ []) (bytes : List UInt8) :
  StartsCharacter (utf8 cs ++ bytes)
  := by
  obtain ⟨c, cs, rfl⟩ := List.exists_cons_of_ne_nil h
  obtain ⟨b, bs, hbytes⟩ := List.exists_cons_of_ne_nil (String.utf8EncodeChar_ne_nil (c := c))
  rw [utf8_cons, hbytes]
  rintro _ ⟨⟩
  have hfirst : b.IsUTF8FirstByte ↔ [] = [] := isUTF8FirstByte_iff hbytes
  apply hfirst.mpr rfl

/-- The bytes of a text that are cut off before a byte that starts a character are those of a
part of the text. -/
theorem exists_of_utf8_eq_append {cs : List Char} {before after : List UInt8}
    (h : utf8 cs = before ++ after) (hstarts : StartsCharacter after) :
  ∃ ds es, cs = ds ++ es ∧ utf8 ds = before ∧ utf8 es = after
  := by
  induction cs generalizing before with
  | nil =>
    obtain ⟨rfl, rfl⟩ := List.append_eq_nil_iff.mp h.symm
    exact ⟨[], [], rfl, rfl, rfl⟩
  | cons c cs ih =>
    rw [utf8_cons] at h
    rcases List.append_eq_append_iff.mp h with ⟨between, rfl, hrest⟩ | ⟨between, hc, rfl⟩
    · obtain ⟨ds, es, rfl, rfl, rfl⟩ := ih hrest
      exact ⟨c :: ds, es, rfl, utf8_cons c ds, rfl⟩
    · cases between with
      | nil =>
        rw [List.append_nil] at hc
        exact ⟨[c], cs, rfl, (utf8_cons c []).trans ((List.append_nil _).trans hc), rfl⟩
      | cons b between =>
        obtain rfl := (isUTF8FirstByte_iff hc).mp (hstarts b rfl)
        refine ⟨[], c :: cs, rfl, rfl, ?_⟩
        rw [utf8_cons, hc]
        rfl

/-- A text whose bytes another one starts with is what that one starts with. -/
theorem prefix_of_utf8_append {cs ds : List Char} {bytes : List UInt8}
    (h : utf8 ds ++ bytes = utf8 cs) :
  ds <+: cs
  := by
  apply List.isPrefix_of_utf8Encode_append_eq_utf8Encode bytes.toByteArray
  apply ByteArray.ext
  rw [← Array.toList_inj, ByteArray.data_append, Array.toList_append]
  simp only [List.utf8Encode, List.toList_data_toByteArray]
  apply h

/-- Wherever the bytes of a text that is not empty stand in those of another, they stand between
the bytes of characters. -/
theorem exists_of_utf8_eq_append_append {cs ds : List Char} {before after : List UInt8}
    (hds : ds ≠ []) (h : utf8 cs = before ++ utf8 ds ++ after) :
  ∃ bs es, cs = bs ++ ds ++ es ∧ utf8 bs = before ∧ utf8 es = after
  := by
  rw [List.append_assoc] at h
  obtain ⟨bs, rest, rfl, hbs, hrest⟩ := exists_of_utf8_eq_append h (startsCharacter_utf8 hds _)
  obtain ⟨es, rfl⟩ := prefix_of_utf8_append hrest.symm
  use bs, es
  refine ⟨(List.append_assoc _ _ _).symm, hbs, ?_⟩
  rw [utf8_append] at hrest
  apply List.append_cancel_left hrest

/-- The bytes of a text stand in those of another exactly when the text stands in the other. -/
theorem utf8_infix_iff (cs ds : List Char) :
  utf8 ds <:+: utf8 cs ↔ ds <:+: cs
  := by
  constructor
  · rintro ⟨before, after, h⟩
    by_cases hds : ds = []
    · subst hds
      apply List.nil_infix
    · obtain ⟨bs, es, rfl, -, -⟩ := exists_of_utf8_eq_append_append hds h.symm
      exact ⟨bs, es, rfl⟩
  · rintro ⟨bs, es, rfl⟩
    use utf8 bs, utf8 es
    rw [utf8_append, utf8_append]

end MatchCriteria.Text
