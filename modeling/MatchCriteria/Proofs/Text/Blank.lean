import Mathlib.Data.List.DropRight
import MatchCriteria.Text.Blank

/-!
# Trimming and cutting

What is left of a text without the blanks around it, and the two parts of a text that is cut
at its first run of blanks, are each determined by how the text is put together again.
-/

namespace MatchCriteria.Text

/-- There are only blanks in the text. -/
def Blank (cs : List Char) : Prop := ∀ c ∈ cs, isBlank c = true

/-- There are no blanks in the text. -/
def Solid (cs : List Char) : Prop := ∀ c ∈ cs, isBlank c = false

instance (cs : List Char) : Decidable (Blank cs) :=
  decidable_of_iff (cs.all isBlank = true) List.all_eq_true

instance (cs : List Char) : Decidable (Solid cs) :=
  decidable_of_iff (cs.all (fun c => !isBlank c) = true) (by simp [Solid])

/-- The text `core` stands between blanks in `cs`, and has none at its own ends. -/
def Trimmed (cs core : List Char) : Prop :=
  ∃ before after, cs = before ++ core ++ after ∧ Blank before ∧ Blank after ∧
    (∀ c ∈ core.head?, isBlank c = false) ∧ ∀ c ∈ core.getLast?, isBlank c = false

/-- The parts `first` and `rest` of `cs` stand before and after its first run of blanks. -/
def Cut (cs first rest : List Char) : Prop :=
  ∃ gap, cs = first ++ gap ++ rest ∧ Solid first ∧ Blank gap ∧ gap ≠ [] ∧
    ∀ c ∈ rest.head?, isBlank c = false

/-- A text that does not begin with a blank is left as it is. -/
theorem dropWhile_eq_self {cs : List Char} (h : ∀ c ∈ cs.head?, isBlank c = false) :
  cs.dropWhile isBlank = cs
  := by
  cases cs with
  | nil => rfl
  | cons c cs => simp [h c rfl]

theorem blank_takeWhile (cs : List Char) :
  Blank (cs.takeWhile isBlank)
  := by
  intro c hc
  apply List.mem_takeWhile_imp hc

theorem head?_dropWhile (cs : List Char) :
  ∀ c ∈ (cs.dropWhile isBlank).head?, isBlank c = false
  := by
  intro c hc
  have h := List.head?_dropWhile_not isBlank cs
  rw [hc] at h
  simpa using h

theorem trimmed_trim (cs : List Char) :
  Trimmed cs (trim cs)
  := by
  set inner := cs.dropWhile isBlank with hinner
  have htrim : trim cs = inner.rdropWhile isBlank := rfl
  use cs.takeWhile isBlank, inner.rtakeWhile isBlank
  rw [htrim, List.append_assoc, List.rdropWhile_append_rtakeWhile,
    List.takeWhile_append_dropWhile]
  refine ⟨rfl, blank_takeWhile cs, ?_, ?_, ?_⟩
  · intro c hc
    apply List.mem_rtakeWhile_imp hc
  · intro c hc
    obtain ⟨tail, htail⟩ := List.rdropWhile_prefix isBlank (l := inner)
    apply head?_dropWhile cs c
    rw [← hinner, ← htail, List.head?_append, hc]
    rfl
  · intro c hc
    obtain ⟨hne, rfl⟩ := List.mem_getLast?_eq_getLast hc
    simpa using List.rdropWhile_last_not isBlank inner hne

/-- Trimming finds what stands between blanks. -/
theorem trim_eq_iff (cs core : List Char) :
  trim cs = core ↔ Trimmed cs core
  := by
  constructor
  · rintro rfl
    apply trimmed_trim
  · rintro ⟨before, after, rfl, hbefore, hafter, hhead, hlast⟩
    have hstart : trimStart (before ++ core ++ after) = trimStart (core ++ after) := by
      rw [List.append_assoc]
      apply List.dropWhile_append_of_pos hbefore
    unfold trim
    rw [hstart]
    cases core with
    | nil =>
      have h : trimStart after = [] := List.dropWhile_eq_nil_iff.mpr hafter
      rw [List.nil_append, h]
      rfl
    | cons c core =>
      have h : trimStart (c :: core ++ after) = c :: core ++ after := dropWhile_eq_self hhead
      have hend : (c :: core).reverse.dropWhile isBlank = (c :: core).reverse := by
        apply dropWhile_eq_self
        rw [List.head?_reverse]
        apply hlast
      rw [h, trimEnd, List.reverse_append, List.dropWhile_append_of_pos, hend,
        List.reverse_reverse]
      intro c hc
      apply hafter c (List.mem_reverse.mp hc)

/-- Only one text stands between blanks. -/
theorem Trimmed.unique {cs core core' : List Char} (h : Trimmed cs core)
    (h' : Trimmed cs core') :
  core = core'
  := by
  rw [← (trim_eq_iff cs core).mpr h, ← (trim_eq_iff cs core').mpr h']

theorem trimmed_self {cs : List Char} (hhead : ∀ c ∈ cs.head?, isBlank c = false)
    (hlast : ∀ c ∈ cs.getLast?, isBlank c = false) :
  Trimmed cs cs
  := by
  use [], []
  rw [List.nil_append, List.append_nil]
  exact ⟨rfl, nofun, nofun, hhead, hlast⟩

theorem Solid.cons {c : Char} {cs : List Char} (hc : isBlank c = false) (h : Solid cs) :
  Solid (c :: cs)
  := List.forall_mem_cons.mpr ⟨hc, h⟩

/-- A text without blanks has none at its ends. -/
theorem Solid.trimmed {cs : List Char} (h : Solid cs) :
  Trimmed cs cs
  := by
  apply trimmed_self
  · intro c hc
    apply h c (List.mem_of_mem_head? hc)
  · intro c hc
    apply h c (List.mem_of_mem_getLast? hc)

/-- Nothing stands between blanks when there are only blanks. -/
theorem trimmed_nil_iff (cs : List Char) :
  Trimmed cs [] ↔ Blank cs
  := by
  constructor
  · rintro ⟨before, after, rfl, hbefore, hafter, -⟩ c hc
    rw [List.append_nil, List.mem_append] at hc
    apply hc.elim (hbefore c) (hafter c)
  · intro h
    use cs, []
    rw [List.append_nil, List.append_nil]
    exact ⟨rfl, h, nofun, nofun, nofun⟩

/-- A text with blanks is cut at the first of them. -/
theorem splitAtBlank?_eq_some_iff (cs first rest : List Char) :
  splitAtBlank? cs = some (first, rest) ↔ Cut cs first rest
  := by
  constructor
  · intro h
    unfold splitAtBlank? at h
    split at h
    · cases h
    · rename_i c tail htail
      cases h
      use c :: tail.takeWhile isBlank
      refine ⟨?_, ?_, ?_, List.cons_ne_nil _ _, head?_dropWhile tail⟩
      · rw [List.append_assoc, List.cons_append, trimStart, List.takeWhile_append_dropWhile,
          ← htail, List.takeWhile_append_dropWhile]
      · intro c hc
        simpa using List.mem_takeWhile_imp hc
      · intro d hd
        rcases List.mem_cons.mp hd with rfl | hd
        · have hhead := List.head?_dropWhile_not (fun c => !isBlank c) cs
          rw [htail] at hhead
          simpa using hhead
        · apply blank_takeWhile tail d hd
  · rintro ⟨gap, rfl, hfirst, hgap, hne, hrest⟩
    obtain ⟨c, gap, rfl⟩ := List.exists_cons_of_ne_nil hne
    have hsolid : ∀ c ∈ first, (!isBlank c) = true := by
      intro c hc
      rw [hfirst c hc]
      rfl
    have hc : isBlank c = true := hgap c List.mem_cons_self
    have hgap' : ∀ c ∈ gap, isBlank c = true := fun c hc => hgap c (List.mem_cons_of_mem _ hc)
    rw [splitAtBlank?, List.append_assoc, List.dropWhile_append_of_pos hsolid,
      List.takeWhile_append_of_pos hsolid]
    simp only [List.cons_append, hc, Bool.not_true, Bool.false_eq_true, not_false_eq_true,
      List.dropWhile_cons_of_neg, List.takeWhile_cons_of_neg, List.append_nil]
    rw [trimStart, List.dropWhile_append_of_pos hgap', dropWhile_eq_self hrest]

end MatchCriteria.Text
