import Mathlib.Data.List.Basic

/-!
# Deleting parts of a text

Every occurrence of some parts is deleted from a text, from left to right.  A text that ends
with a character of which no part has any can be cut off: nothing that is deleted lies on both
sides of the cut.
-/

namespace MatchCriteria.Text

/-- The part that a text starts with. -/
def partAt? (parts : List (List Char)) (cs : List Char) : Option (List Char) :=
  parts.find? fun part => part.isPrefixOf cs

/-- The text without the occurrences of some parts, when the first `begun` characters of it
still belong to one. -/
def deleteAfter (parts : List (List Char)) : Nat → List Char → List Char
  | _, [] => []
  | begun + 1, _ :: cs => deleteAfter parts begun cs
  | 0, c :: cs =>
    match partAt? parts (c :: cs) with
    | some part => deleteAfter parts (part.length - 1) cs
    | none => c :: deleteAfter parts 0 cs

/-- The text without the occurrences of some parts. -/
def delete (parts : List (List Char)) (cs : List Char) : List Char := deleteAfter parts 0 cs

/-- No part lies across the end of a text, whatever follows it. -/
def Ended (parts : List (List Char)) (cs : List Char) : Prop :=
  ∀ c ∈ cs.getLast?, ∀ part ∈ parts, c ∉ part

variable {parts : List (List Char)}

/-- A text starts with a part before a character that the part does not have. -/
theorem isPrefixOf_append {part : List Char} {c : Char} (h : c ∉ part) (cs ds : List Char) :
  part.isPrefixOf (cs ++ c :: ds) = part.isPrefixOf cs
  := by
  rw [Bool.eq_iff_iff, List.isPrefixOf_iff_prefix, List.isPrefixOf_iff_prefix]
  constructor
  · intro hprefix
    have hcut : cs ++ [c] <+: cs ++ c :: ds := ⟨ds, by simp⟩
    rcases List.prefix_or_prefix_of_prefix hprefix hcut with hbefore | hacross
    · rcases List.prefix_concat_iff.mp hbefore with rfl | hprefix
      · simp at h
      · apply hprefix
    · cases h (hacross.subset (by simp))
  · intro hprefix
    apply hprefix.trans (List.prefix_append _ _)

theorem partAt?_append {c : Char} (hc : ∀ part ∈ parts, c ∉ part) (cs ds : List Char) :
  partAt? parts (cs ++ c :: ds) = partAt? parts cs
  := by
  induction parts with
  | nil => rfl
  | cons part parts ih =>
    rw [List.forall_mem_cons] at hc
    rw [partAt?, partAt?, List.find?_cons, List.find?_cons, isPrefixOf_append hc.1,
      ← partAt?, ← partAt?, ih hc.2]

theorem partAt?_nil (hparts : [] ∉ parts) :
  partAt? parts [] = none
  := by
  rw [partAt?, List.find?_eq_none]
  intro part hpart hprefix
  rw [List.isPrefixOf_iff_prefix, List.prefix_nil] at hprefix
  subst hprefix
  apply hparts hpart

theorem length_le_of_partAt? {part cs : List Char} (h : partAt? parts cs = some part) :
  part.length ≤ cs.length
  := by
  have hprefix := List.find?_some h
  rw [List.isPrefixOf_iff_prefix] at hprefix
  apply hprefix.length_le

/-- What is deleted lies before or behind a character that no part has. -/
theorem deleteAfter_append (hparts : [] ∉ parts) {c : Char} (hc : ∀ part ∈ parts, c ∉ part)
    {begun : Nat} {cs : List Char} (hbegun : begun ≤ cs.length) (ds : List Char) :
  deleteAfter parts begun (cs ++ c :: ds)
    = deleteAfter parts begun cs ++ c :: deleteAfter parts 0 ds
  := by
  induction cs generalizing begun with
  | nil =>
    obtain rfl := Nat.le_zero.mp hbegun
    have hnone : partAt? parts (c :: ds) = none :=
      (partAt?_append hc [] ds).trans (partAt?_nil hparts)
    simp only [List.nil_append, deleteAfter, hnone]
  | cons d cs ih =>
    cases begun with
    | succ begun => apply ih (Nat.le_of_succ_le_succ hbegun)
    | zero =>
      have hpart := partAt?_append hc (d :: cs) ds
      rw [List.cons_append] at hpart
      rw [List.cons_append, deleteAfter, deleteAfter, hpart]
      cases hat : partAt? parts (d :: cs) with
      | none => simp only [ih (Nat.zero_le _), List.cons_append]
      | some part =>
        have hle := length_le_of_partAt? hat
        rw [List.length_cons] at hle
        apply ih
        omega

/-- A text that no part lies across the end of can be cut off. -/
theorem delete_append (hparts : [] ∉ parts) {cs : List Char} (h : Ended parts cs)
    (ds : List Char) :
  delete parts (cs ++ ds) = delete parts cs ++ delete parts ds
  := by
  rcases List.eq_nil_or_concat cs with rfl | ⟨cs, c, rfl⟩
  · rfl
  · rw [List.concat_eq_append] at h ⊢
    have hc := h c (by rw [List.getLast?_concat]; rfl)
    have hcut (ds : List Char) := deleteAfter_append hparts hc (Nat.zero_le cs.length) ds
    rw [delete, delete, delete, List.append_assoc, List.singleton_append, hcut, hcut]
    simp [deleteAfter]

/-- A text in which none of the parts occurs is left as it is. -/
theorem delete_eq_self {cs : List Char} (h : ∀ part ∈ parts, ¬ part <:+: cs) :
  delete parts cs = cs
  := by
  induction cs with
  | nil => rfl
  | cons c cs ih =>
    have hnone : partAt? parts (c :: cs) = none := by
      rw [partAt?, List.find?_eq_none]
      intro part hpart hprefix
      rw [List.isPrefixOf_iff_prefix] at hprefix
      apply h part hpart hprefix.isInfix
    have hrest : delete parts cs = cs := by
      apply ih
      intro part hpart hoccurs
      apply h part hpart (List.infix_cons hoccurs)
    rw [delete] at hrest ⊢
    simp only [deleteAfter, hnone, hrest]

/-- Texts are rid of the parts one by one. -/
theorem delete_flatMap {α : Type} (hparts : [] ∉ parts) {f : α → List Char}
    (h : ∀ x, Ended parts (f x)) (xs : List α) :
  delete parts (xs.flatMap f) = xs.flatMap fun x => delete parts (f x)
  := by
  induction xs with
  | nil => rfl
  | cons x xs ih => rw [List.flatMap_cons, delete_append hparts (h x), ih, List.flatMap_cons]

end MatchCriteria.Text
