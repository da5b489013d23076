import MatchCriteria.Proofs.Json.Layout

/-!
# Line feeds in JSON

A line feed within a string is escaped, so the line feeds of a value over several lines are those
that its items and members are set apart by: one before each of them, and one before the closing
bracket or brace of a value that has any.
-/

namespace MatchCriteria.Json

/-! ### Values without parts -/

/-- No character stands in a string as a line feed. -/
theorem lineFeed_notMem_stringChar (c : Char) :
  '\n' ∉ stringChar c
  := by
  have hcode : ∀ n < 0x20, '\n' ∉
      ['\\', 'u', '0', '0', Number.Hex.digit (n / 16), Number.Hex.digit (n % 16)] := by
    decide
  unfold stringChar
  split
  case h_8 _ _ _ _ hfeed _ _ =>
    split
    · rename_i hcontrol
      apply hcode c.toNat hcontrol
    · rw [List.mem_singleton]
      apply Ne.symm hfeed
  all_goals decide

theorem count_lineFeed_quote (s : String) :
  (quote s).count '\n' = 0
  := by
  rw [List.count_eq_zero, quote, List.mem_append, List.mem_cons, List.mem_flatMap]
  rintro ((hquote | ⟨c, -, hc⟩) | hquote)
  · absurd hquote
    decide
  · apply lineFeed_notMem_stringChar c hc
  · absurd hquote
    decide

theorem count_lineFeed_toString (n : Int) :
  (toString n).toList.count '\n' = 0
  := by
  have hdigits : '\n' ∉ Nat.toDigits 10 n.natAbs := by
    intro hmem
    have hdigit := Nat.isDigit_of_mem_toDigits (by decide) (by decide) hmem
    absurd hdigit
    decide
  rw [List.count_eq_zero, toList_toString]
  split
  · rw [List.mem_cons, not_or]
    exact ⟨by decide, hdigits⟩
  · apply hdigits

theorem count_lineFeed_boolean (b : Bool) :
  (atom (.boolean b)).count '\n' = 0
  := by
  cases b with
  | true => decide
  | false => decide

/-! ### Arrays and objects -/

theorem count_lineFeed_newLine (depth : Nat) :
  (newLine depth).count '\n' = 1
  := by
  rw [newLine, List.count_cons_self, List.count_replicate, if_neg (by decide)]

/-- The commas between texts are no line feeds. -/
theorem count_lineFeed_joined (texts : List (List Char)) :
  (joined texts).count '\n' = (texts.map (List.count '\n')).sum
  := by
  have hcomma : (List.count '\n' ∘ fun text => ',' :: text) = List.count '\n' := by
    funext text
    apply List.count_cons_of_ne
    decide
  cases texts with
  | nil => rfl
  | cons text texts =>
    rw [joined, List.count_append, continued, List.count_flatMap, hcomma, List.map_cons,
      List.sum_cons]

/-- The lines of an array are those of its items, and those of its brackets. -/
theorem count_lineFeed_array (indent : Nat) {xs : List Value} (h : xs ≠ []) :
  (pretty indent (.array xs)).count '\n'
    = (xs.map fun v => 1 + (pretty (indent + 1) v).count '\n').sum + 1
  := by
  have hitem : List.count '\n' ∘ prettyItem (indent + 1)
      = fun v => 1 + (pretty (indent + 1) v).count '\n' := by
    funext v
    rw [Function.comp_apply, prettyItem, List.count_append, count_lineFeed_newLine]
  obtain ⟨v, xs, rfl⟩ := List.exists_cons_of_ne_nil h
  rw [pretty, prettyItems_eq_joined, List.count_append, List.count_append,
    List.count_cons_of_ne (by decide), count_lineFeed_joined, count_lineFeed_newLine, List.map_map,
    hitem]
  rfl

/-- The lines of an object are those of the values of its members, and those of its braces. -/
theorem count_lineFeed_object (indent : Nat) {ms : List (String × Value)} (h : ms ≠ []) :
  (pretty indent (.object ms)).count '\n'
    = (ms.map fun m => 1 + (pretty (indent + 1) m.2).count '\n').sum + 1
  := by
  have hmember : List.count '\n' ∘ prettyMember (indent + 1)
      = fun m => 1 + (pretty (indent + 1) m.2).count '\n' := by
    funext m
    rw [Function.comp_apply, prettyMember, List.count_append, List.count_append,
      count_lineFeed_newLine, count_lineFeed_quote, List.count_cons_of_ne (by decide),
      List.singleton_append, List.count_cons_of_ne (by decide), Nat.zero_add]
  obtain ⟨m, ms, rfl⟩ := List.exists_cons_of_ne_nil h
  rw [pretty, prettyMembers_eq_joined, List.count_append, List.count_append,
    List.count_cons_of_ne (by decide), count_lineFeed_joined, count_lineFeed_newLine, List.map_map,
    hmember]
  rfl

end MatchCriteria.Json
