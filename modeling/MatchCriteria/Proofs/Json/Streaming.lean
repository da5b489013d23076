import MatchCriteria.Proofs.Json.RoundTrip
import MatchCriteria.Proofs.Result

/-!
# Items read one by one

A list is read item by item, and each item is given to a function before the next one is read.
This comes to the same as reading the whole text first: the list is read exactly when the text is
an array and the function takes every item of it, and a refusal is that of the first item that is
not taken.
-/

namespace MatchCriteria.Json

/-! ### What stands between items -/

/-- Whether another item follows an item, and what is left from there on. -/
def separator (rest : List Char) : Except Fault (Bool × List Char) :=
  match skipBlank rest with
  | [] => .error (.next .unfinishedList [])
  | ']' :: rest => .ok (false, rest)
  | ',' :: rest =>
    match skipBlank rest with
    | [] => .error (.next .unfinishedValue [])
    | ']' :: rest => .error (.next .trailingComma (']' :: rest))
    | rest => .ok (true, rest)
  | rest => .error (.next .expectedListSeparator rest)

section Items

variable {ε α : Type} (fault : Fault → ε) (item : List Char → Except ε (α × List Char))

/-- What is read behind an item, which is put before it. -/
def itemsBehind (fuel : Nat) (x : α) (rest : List Char) : Except ε (List α × List Char) :=
  match separator rest with
  | .error f => .error (fault f)
  | .ok (false, rest) => .ok ([x], rest)
  | .ok (true, rest) => (items fault item fuel rest).map fun (xs, rest) => (x :: xs, rest)

/-- Items are an item and what is behind it. -/
theorem items_succ (fuel : Nat) (cs : List Char) :
  items fault item (fuel + 1) cs
    = item cs >>= fun (x, rest) => itemsBehind fault item fuel x rest
  := by
  rw [items]
  congr
  funext r
  obtain ⟨x, rest⟩ := r
  simp only [itemsBehind]
  -- The cases of `items` are those of `separator`, which stays folded so that it can be rewritten.
  split
  case h_1 h =>
    have hseparator : separator rest = .error (.next .unfinishedList []) := by
      simp only [separator, h]
    rw [hseparator]
    rfl
  case h_2 after h =>
    have hseparator : separator rest = .ok (false, after) := by
      simp only [separator, h]
    rw [hseparator]
    rfl
  case h_3 after h =>
    split
    case h_1 hafter =>
      have hseparator : separator rest = .error (.next .unfinishedValue []) := by
        simp only [separator, h, hafter]
      rw [hseparator]
      rfl
    case h_2 more hafter =>
      have hseparator : separator rest = .error (.next .trailingComma (']' :: more)) := by
        simp only [separator, h, hafter]
      rw [hseparator]
      rfl
    case h_3 hnil hbracket =>
      have hseparator : separator rest = .ok (true, skipBlank after) := by
        simp only [separator, h]
      rw [hseparator]
      simp only
      cases items fault item fuel _ <;> rfl
  case h_4 hnil hbracket hcomma =>
    have hseparator : separator rest = .error (.next .expectedListSeparator (skipBlank rest)) := by
      rw [separator]
      split
      case h_1 h => cases hnil h
      case h_2 h => cases hbracket _ h
      case h_3 h => cases hcomma _ h
      case h_4 => rfl
    rw [hseparator]
    rfl

end Items

/-! ### Items and what is made of them -/

section Convert

variable {α : Type} (convert : Value → Except String α)

/-- What is read when values are given to a function one by one, as it follows from what is read
when they are not. -/
inductive Follows :
    Except Fault (List Value × List Char) → Except ItemError (List α × List Char) → Prop where
  | taken {vs : List Value} {xs : List α} {rest : List Char} (h : vs.mapM convert = .ok xs) :
      Follows (.ok (vs, rest)) (.ok (xs, rest))
  | refused {vs : List Value} {refusal : String} {rest after : List Char}
      (h : vs.mapM convert = .error refusal) :
      Follows (.ok (vs, rest)) (.error (.refused refusal after))
  | malformed (f : Fault) (e : ItemError) : Follows (.error f) (.error e)

/-- A value that is refused is refused whatever is read behind it. -/
theorem follows_of_refused {v : Value} {refusal : String} (h : convert v = .error refusal)
    (depth fuel : Nat) (rest : List Char) :
  Follows convert (itemsBehind id (value depth) fuel v rest) (.error (.refused refusal rest))
  := by
  rw [itemsBehind]
  split
  · apply Follows.malformed
  · apply Follows.refused (mapM_cons_of_error h [])
  · cases items id (value depth) fuel _ with
    | error f => apply Follows.malformed
    | ok r => apply Follows.refused (mapM_cons_of_error h r.1)

/-- A value that is taken is followed by what is made of the values behind it. -/
theorem follows_of_taken {v : Value} {x : α} (h : convert v = .ok x) {depth fuel : Nat}
    (ih : ∀ cs, Follows convert (items id (value depth) fuel cs)
      (items .fault (item convert depth) fuel cs))
    (rest : List Char) :
  Follows convert (itemsBehind id (value depth) fuel v rest)
    (itemsBehind .fault (item convert depth) fuel x rest)
  := by
  rw [itemsBehind, itemsBehind]
  cases separator rest with
  | error f => apply Follows.malformed
  | ok r =>
    obtain ⟨more, rest⟩ := r
    cases more with
    | false =>
      apply Follows.taken
      rw [mapM_cons_of_ok h]
      rfl
    | true =>
      have hbehind := ih rest
      simp only
      cases hvs : items id (value depth) fuel rest <;>
        cases hxs : items .fault (item convert depth) fuel rest <;>
        rw [hvs, hxs] at hbehind <;> cases hbehind
      case error.error.malformed => apply Follows.malformed
      case ok.error.refused h' =>
        apply Follows.refused
        rw [mapM_cons_of_ok h, h']
        rfl
      case ok.ok.taken h' =>
        apply Follows.taken
        rw [mapM_cons_of_ok h, h']
        rfl

/-- Items are read one by one as they are read all together. -/
theorem follows_items (depth fuel : Nat) (cs : List Char) :
  Follows convert (items id (value depth) fuel cs) (items .fault (item convert depth) fuel cs)
  := by
  induction fuel generalizing cs with
  | zero => apply Follows.malformed
  | succ fuel ih =>
    rw [items_succ, items_succ, item]
    cases value depth cs with
    | error f => apply Follows.malformed
    | ok r =>
      simp only
      cases h : convert r.1 with
      | error refusal => apply follows_of_refused convert h
      | ok x => apply follows_of_taken convert h ih

theorem follows_array (depth : Nat) (cs : List Char) :
  Follows convert (array id (value depth) cs) (array .fault (item convert depth) cs)
  := by
  rw [array, array]
  split
  · apply Follows.malformed
  · apply Follows.taken rfl
  · apply follows_items

end Convert

/-! ### Arrays among the values -/

section Number

variable {negative : Bool} {digits : Nat} {moved : Int} {cs rest : List Char} {v : Value}

theorem kind_of_float (h : float negative digits moved cs = .ok (v, rest)) :
  v.kind = .float
  := by
  rw [float] at h
  split at h
  · cases h
    rfl
  · cases h

theorem kind_of_exponent (h : exponent negative digits moved cs = .ok (v, rest)) :
  v.kind = .float
  := by
  unfold exponent at h
  split at h
  split at h
  · cases h
  · split at h
    · split at h
      · apply kind_of_float h
      · split at h
        · cases h
        · cases h
          rfl
    · cases h

theorem kind_of_fraction {dropped : Nat}
    (h : fraction negative digits dropped cs = .ok (v, rest)) :
  v.kind = .float
  := by
  unfold fraction at h
  split at h
  · cases h
  · split at h
    · simp only [exponent?] at h
      split at h
      · apply kind_of_exponent h
      · apply kind_of_exponent h
      · apply kind_of_float h
    · cases h

/-- A number is no array. -/
theorem kind_of_number (h : number negative cs = .ok (v, rest)) :
  v.kind = .integer ∨ v.kind = .float
  := by
  unfold number at h
  split at h
  · cases h
  · split at h
    · split at h
      split at h
      · cases h
      · split at h
        · apply Or.inr (kind_of_fraction h)
        · apply Or.inr (kind_of_exponent h)
        · apply Or.inr (kind_of_exponent h)
        · dsimp only at h
          generalize Integer.ofInt? _ = i at h
          split at h
          · split at h
            · cases h
              apply Or.inl rfl
            · apply Or.inr (kind_of_float h)
          · apply Or.inr (kind_of_float h)
    · cases h

end Number

/-- A value is an array where an array begins. -/
theorem exists_of_value_array {depth : Nat} {cs rest : List Char} {vs : List Value}
    (h : value (depth + 1) cs = .ok (.array vs, rest)) :
  ∃ inner, skipBlank cs = '[' :: inner ∧ array id (value depth) inner = .ok (vs, rest)
  := by
  rw [value, valueBy] at h
  split at h
  case h_6 inner hstart =>
    obtain ⟨⟨xs, after⟩, hinner, hvalue⟩ := exists_of_bind_eq_ok h
    cases hvalue
    exact ⟨inner, hstart, hinner⟩
  case h_8 => cases kind_of_number h <;> contradiction
  case h_9 =>
    split at h
    · cases kind_of_number h <;> contradiction
    · cases h
  case h_1 => cases h
  all_goals
    obtain ⟨_, -, hvalue⟩ := exists_of_bind_eq_ok h
    cases hvalue

/-! ### Whole texts -/

theorem finish_eq_ok_iff {α : Type} {text rest : List Char} {x y : α} :
  finish text x rest = .ok y ↔ skipBlank rest = [] ∧ x = y
  := by
  rw [finish]
  split
  case h_1 h =>
    rw [Except.ok.injEq, and_iff_right h]
  case h_2 h =>
    constructor
    · nofun
    · rintro ⟨hend, -⟩
      cases h hend

/-- A text is a value with nothing but blanks behind it. -/
theorem read_eq_ok_iff {text : String} {v : Value} :
  read text = .ok v ↔
    ∃ rest, value depthLimit text.toList = .ok (v, rest) ∧ skipBlank rest = []
  := by
  simp only [read]
  cases value depthLimit text.toList with
  | error f => simp
  | ok r =>
    obtain ⟨w, rest⟩ := r
    simp only [finish_eq_ok_iff, Except.ok.injEq, Prod.mk.injEq]
    constructor
    · rintro ⟨hend, rfl⟩
      exact ⟨rest, ⟨rfl, rfl⟩, hend⟩
    · rintro ⟨_, ⟨rfl, rfl⟩, hend⟩
      exact ⟨hend, rfl⟩

/-- A text is an array with nothing but blanks before it and behind. -/
theorem read_eq_array_iff {text : String} {vs : List Value} :
  read text = .ok (.array vs) ↔
    ∃ inner rest, skipBlank text.toList = '[' :: inner ∧
      array id (value (depthLimit - 1)) inner = .ok (vs, rest) ∧ skipBlank rest = []
  := by
  rw [read_eq_ok_iff]
  constructor
  · rintro ⟨rest, h, hend⟩
    obtain ⟨inner, hstart, hinner⟩ := exists_of_value_array h
    exact ⟨inner, rest, hstart, hinner, hend⟩
  · rintro ⟨inner, rest, hstart, hinner, hend⟩
    use rest
    rw [← value_skipBlank, hstart]
    exact ⟨value_array hinner, hend⟩

theorem refuseShape_ne_ok {α : Type} (text : List Char) (expected : String) (cs : List Char)
    (x : α) :
  refuseShape text expected cs ≠ .ok x
  := by
  unfold refuseShape
  split
  · nofun
  · nofun
  · split <;> nofun

section Convert

variable {α : Type} (convert : Value → Except String α)

/-- A list is read as the array that a text is, with each of its items given to the function. -/
theorem readList_eq_ok_iff {text : String} {xs : List α} :
  readList convert text = .ok xs ↔
    ∃ vs, read text = .ok (.array vs) ∧ vs.mapM convert = .ok xs
  := by
  simp only [read_eq_array_iff]
  constructor
  · intro h
    simp only [readList] at h
    split at h
    case h_1 => cases h
    case h_3 => cases refuseShape_ne_ok _ _ _ _ h
    case h_2 inner hstart =>
      have hfollows := follows_array convert (depthLimit - 1) inner
      split at h
      case h_2 => cases h
      case h_1 ys rest hys =>
        obtain ⟨hend, rfl⟩ := finish_eq_ok_iff.mp h
        rw [hys] at hfollows
        generalize hvs : array id (value (depthLimit - 1)) inner = r at hfollows
        cases hfollows with
        | taken hconvert => exact ⟨_, ⟨inner, rest, hstart, hvs, hend⟩, hconvert⟩
  · rintro ⟨vs, ⟨inner, rest, hstart, hvs, hend⟩, hconvert⟩
    have hfollows := follows_array convert (depthLimit - 1) inner
    rw [hvs] at hfollows
    generalize hxs : array .fault (item convert (depthLimit - 1)) inner = r at hfollows
    simp only [readList, hstart, hxs]
    cases hfollows with
    | taken h =>
      rw [hconvert] at h
      cases h
      apply finish_eq_ok_iff.mpr ⟨hend, rfl⟩
    | refused h =>
      rw [hconvert] at h
      cases h

/-- A list of which an item is refused is refused in the same words, at a position behind the
item. -/
theorem readList_of_refused {text : String} {vs : List Value} {refusal : String}
    (h : read text = .ok (.array vs)) (hrefused : vs.mapM convert = .error refusal) :
  ∃ p, readList convert text = .error ((Error.ofMessage refusal).locate p)
  := by
  obtain ⟨inner, rest, hstart, hvs, hend⟩ := read_eq_array_iff.mp h
  have hfollows := follows_array convert (depthLimit - 1) inner
  rw [hvs] at hfollows
  generalize hxs : array .fault (item convert (depthLimit - 1)) inner = r at hfollows
  simp only [readList, hstart, hxs]
  cases hfollows with
  | taken h =>
    rw [hrefused] at h
    cases h
  | refused h =>
    rw [hrefused] at h
    cases h
    exact ⟨_, rfl⟩

/-- A text is read as what the function makes of its value. -/
theorem readAs_eq_ok_iff {text : String} {x : α} :
  readAs convert text = .ok x ↔ ∃ v, read text = .ok v ∧ convert v = .ok x
  := by
  simp only [readAs, read_eq_ok_iff]
  constructor
  · intro h
    split at h
    case h_2 => cases h
    case h_1 v rest hv =>
      split at h
      case h_2 => cases h
      case h_1 y hy =>
        obtain ⟨hend, rfl⟩ := finish_eq_ok_iff.mp h
        exact ⟨v, ⟨rest, hv, hend⟩, hy⟩
  · rintro ⟨v, ⟨rest, hv, hend⟩, hx⟩
    simp only [hv, hx]
    apply finish_eq_ok_iff.mpr ⟨hend, rfl⟩

end Convert

end MatchCriteria.Json
