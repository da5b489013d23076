/-!
# Blank characters

The white space of Unicode, as a predicate on characters, and what the readers of this
library do with it: dropping it at the ends of a text, and cutting a text at the first
run of it.  Every operation works on the list of characters of a text; the facts below
say what each leaves.
-/

namespace MatchCriteria.Text

/-- The characters with the Unicode property `White_Space`. -/
def isBlank (c : Char) : Bool :=
  let n := c.toNat
  (0x9 ≤ n && n ≤ 0xD) || n = 0x20 || n = 0x85 || n = 0xA0 || n = 0x1680 ||
    (0x2000 ≤ n && n ≤ 0x200A) || n = 0x2028 || n = 0x2029 || n = 0x202F || n = 0x205F ||
    n = 0x3000

/-- The text without the blanks it starts with. -/
def trimStart (cs : List Char) : List Char := cs.dropWhile isBlank

/-- The text without the blanks it ends with. -/
def trimEnd (cs : List Char) : List Char := (cs.reverse.dropWhile isBlank).reverse

/-- The text without the blanks at either end. -/
def trim (cs : List Char) : List Char := trimEnd (trimStart cs)

/-- The part before the first blank, and the part after the run of blanks that begins
there; `none` when the text has no blank. -/
def splitAtBlank? (cs : List Char) : Option (List Char × List Char) :=
  match cs.dropWhile (fun c => !isBlank c) with
  | [] => none
  | _ :: rest => some (cs.takeWhile (fun c => !isBlank c), trimStart rest)

/-- A text without a blank has no part after one. -/
theorem splitAtBlank?_eq_none_iff (cs : List Char) :
  splitAtBlank? cs = none ↔ ∀ c ∈ cs, isBlank c = false
  := by
  induction cs with
  | nil => simp [splitAtBlank?]
  | cons c cs ih =>
    cases h : isBlank c with
    | true => simp [splitAtBlank?, h]
    | false =>
      simp only [splitAtBlank?, List.dropWhile_cons, h, Bool.not_false, if_true,
        List.mem_cons, forall_eq_or_imp, true_and] at ih ⊢
      rw [← ih]
      cases cs.dropWhile (fun c => !isBlank c) <;> simp

end MatchCriteria.Text
