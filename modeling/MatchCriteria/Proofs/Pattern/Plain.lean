import MatchCriteria.Pattern.Compile
import MatchCriteria.Proofs.Pattern.Search
import MatchCriteria.Proofs.Pattern.Size
import MatchCriteria.Proofs.Text.Utf8

/-!
# Plain patterns

In a plain pattern every character stands for itself.  It is read as one tree for each of its
characters, and means one literal after the other, with the bytes of these.
-/

namespace MatchCriteria.Pattern

/-- Every character of the pattern stands for itself. -/
def Plain (cs : List Char) : Prop := ∀ c ∈ cs, Cursor.isMeta c = false

instance (cs : List Char) : Decidable (Plain cs) :=
  decidable_of_iff (cs.all (fun c => !Cursor.isMeta c) = true) (by simp [Plain])

/-- The trees of characters, of which the first one stands at an index. -/
def characterTrees (i : Nat) : List Char → List Tree
  | [] => []
  | c :: cs => .literal ⟨⟨i, i + 1⟩, c, false⟩ :: characterTrees (i + 1) cs

/-- The expression for characters one after the other. -/
def Expr.ofCharacters (cs : List Char) : Expr := sequence (cs.map fun c => literal (Text.utf8 [c]))

/-! ### Reading -/

theorem atom_of_plain {c : Char} (hc : Cursor.isMeta c = false) (cs : List Char) (i : Nat) :
  atom ⟨c :: cs, i, false, []⟩ = .ok (.literal ⟨⟨i, i + 1⟩, c, false⟩, ⟨cs, i + 1, false, []⟩)
  := by
  unfold atom
  split
  case h_5 heq =>
    cases heq
    rfl
  case h_6 heq => cases heq
  all_goals
    rename_i heq
    cases heq
    cases hc

/-- A character that stands for itself is read as its tree. -/
theorem body_cons_of_plain {c : Char} (hc : Cursor.isMeta c = false) (start fuel : Nat)
    (before : List Tree) (begun : Nat) (items : List Tree) (cs : List Char) (i : Nat) :
  body start (fuel + 1) before begun items ⟨c :: cs, i, false, []⟩
    = body start fuel before begun (.literal ⟨⟨i, i + 1⟩, c, false⟩ :: items)
        ⟨cs, i + 1, false, []⟩
  := by
  have hskip : (⟨c :: cs, i, false, []⟩ : Cursor).skip = ⟨c :: cs, i, false, []⟩ := rfl
  simp only [body, hskip]
  split
  case h_10 =>
    rw [atom_of_plain hc]
    rfl
  case h_1 heq => cases heq
  -- Each of the other signs would stand for something else.
  all_goals
    rename_i heq
    cases heq
    cases hc

/-- A plain pattern is read as the trees of its characters. -/
theorem body_of_plain {cs : List Char} (h : Plain cs) (start : Nat) {fuel : Nat}
    (hfuel : cs.length < fuel) (before : List Tree) (begun : Nat) (items : List Tree) (i : Nat) :
  body start fuel before begun items ⟨cs, i, false, []⟩
    = .ok (bodyOf start before begun ((characterTrees i cs).reverse ++ items)
        ⟨[], i + cs.length, false, []⟩, ⟨[], i + cs.length, false, []⟩)
  := by
  induction cs generalizing fuel items i with
  | nil =>
    obtain ⟨fuel, rfl⟩ := Nat.exists_eq_succ_of_ne_zero (Nat.ne_zero_of_lt hfuel)
    rfl
  | cons c cs ih =>
    obtain ⟨fuel, rfl⟩ := Nat.exists_eq_succ_of_ne_zero (Nat.ne_zero_of_lt hfuel)
    obtain ⟨hc, hcs⟩ := List.forall_mem_cons.mp h
    rw [Nat.succ_eq_add_one, body_cons_of_plain hc, ih hcs (Nat.lt_of_succ_lt_succ hfuel),
      characterTrees, List.reverse_cons, List.append_assoc, List.singleton_append,
      List.length_cons, Nat.add_assoc i 1, Nat.add_comm 1]

/-- At least two trees are a concatenation. -/
theorem sequenceOf_reverse (span : Span) (t u : Tree) (ts : List Tree) :
  sequenceOf span (t :: u :: ts).reverse = .concatenation span (t :: u :: ts)
  := by
  generalize hitems : (t :: u :: ts).reverse = items
  rw [List.reverse_eq_iff] at hitems
  cases items with
  | nil => cases hitems
  | cons last before =>
    cases before with
    | nil => cases hitems
    | cons u' before =>
      rw [hitems]
      rfl

theorem checkDepths_characterTrees (depth i : Nat) (cs : List Char) :
  Tree.checkDepths depth (characterTrees i cs) = .ok ()
  := by
  induction cs generalizing i with
  | nil => rfl
  | cons c cs ih =>
    rw [characterTrees, Tree.checkDepths, ih]
    rfl

theorem checkDepth_sequenceOf (span : Span) (cs : List Char) :
  (sequenceOf span (characterTrees 0 cs).reverse).checkDepth 0 = .ok ()
  := by
  cases cs with
  | nil => rfl
  | cons c cs =>
    cases cs with
    | nil => rfl
    | cons c' cs =>
      rw [characterTrees, characterTrees, sequenceOf_reverse, Tree.checkDepth, ← characterTrees,
        ← characterTrees]
      apply checkDepths_characterTrees

theorem ofPattern_of_plain {pattern : String} (h : Plain pattern.toList) :
  Tree.ofPattern pattern
    = .ok (sequenceOf ⟨0, pattern.toList.length⟩ (characterTrees 0 pattern.toList).reverse)
  := by
  have hbody := body_of_plain h 0 (Nat.lt_succ_self _) [] 0 [] 0
  rw [Nat.zero_add, List.append_nil] at hbody
  have hdepth := checkDepth_sequenceOf ⟨0, pattern.toList.length⟩ pattern.toList
  rw [Tree.ofPattern, Cursor.start, hbody]
  simp only [bind, Except.bind, bodyOf, branchesOf, Cursor.since, hdepth]
  rfl

/-! ### Meaning -/

theorem elaborate_character (span : Span) (c : Char) :
  Tree.elaborate (.initial false) (.literal ⟨span, c, false⟩)
    = .ok (.literal (Text.utf8 [c]), .initial false)
  := rfl

theorem elaborateAll_characterTrees (i : Nat) (cs : List Char) :
  Tree.elaborateAll (.initial false) (characterTrees i cs)
    = .ok (cs.map fun c => .literal (Text.utf8 [c]), .initial false)
  := by
  induction cs generalizing i with
  | nil => rfl
  | cons c cs ih =>
    rw [characterTrees, Tree.elaborateAll, elaborate_character]
    simp only [bind, Except.bind, ih]
    rfl

theorem expr_sequenceOf (span : Span) (cs : List Char) :
  (sequenceOf span (characterTrees 0 cs).reverse).expr false = .ok (.ofCharacters cs)
  := by
  cases cs with
  | nil => rfl
  | cons c cs =>
    cases cs with
    | nil => rfl
    | cons c' cs =>
      rw [characterTrees, characterTrees, sequenceOf_reverse, ← characterTrees, ← characterTrees,
        Tree.expr, Tree.elaborate, elaborateAll_characterTrees]
      rfl

/-- A plain pattern means its characters one after the other, and is refused only if that is too
large. -/
theorem compile_of_plain {pattern : String} (h : Plain pattern.toList) :
  compile pattern =
    if (Expr.ofCharacters pattern.toList).fits then .ok (.ofCharacters pattern.toList)
    else .error .tooLarge
  := by
  rw [compile, ofPattern_of_plain h]
  simp only [expr_sequenceOf]

namespace Expr

theorem ofCharacters_eq (cs : List Char) :
  ofCharacters cs = sequence ((cs.map fun c => Text.utf8 [c]).map literal)
  := by
  rw [ofCharacters, List.map_map]
  rfl

theorem flatten_utf8 (cs : List Char) :
  (cs.map fun c => Text.utf8 [c]).flatten = Text.utf8 cs
  := by
  simp only [Text.utf8, List.flatMap_singleton, ← List.flatMap_def]

/-- Characters one after the other are found where their bytes stand together. -/
theorem search_ofCharacters_iff (cs : List Char) (bytes : Array UInt8) :
  (ofCharacters cs).search bytes = true ↔ Text.utf8 cs <:+: bytes.toList
  := by
  rw [← search_literal_iff, search, search, ofCharacters_eq, ends_sequence_literals, flatten_utf8]

theorem fits_ofCharacters_iff (cs : List Char) :
  (ofCharacters cs).fits = true ↔ literalSize (Text.utf8 cs).length ≤ sizeLimit
  := by
  rw [ofCharacters_eq, fits_sequence_literals_iff, flatten_utf8]

end Expr

/-- A plain pattern compiles when there is room for its bytes, and is then found where they stand
together. -/
theorem compile_eq_ok_iff_of_plain {pattern : String} (h : Plain pattern.toList) (e : Expr) :
  compile pattern = .ok e ↔
    Expr.literalSize pattern.utf8ByteSize ≤ sizeLimit ∧ e = .ofCharacters pattern.toList
  := by
  have hlength : (Text.utf8 pattern.toList).length = pattern.utf8ByteSize := by
    rw [← Text.toList_toUTF8]
    rfl
  rw [compile_of_plain h, ← hlength, ← Expr.fits_ofCharacters_iff]
  constructor
  · intro he
    split at he
    · rename_i hfits
      cases he
      exact ⟨hfits, rfl⟩
    · cases he
  · rintro ⟨hfits, rfl⟩
    rw [if_pos hfits]

end MatchCriteria.Pattern
