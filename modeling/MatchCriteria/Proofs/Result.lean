import Mathlib.Data.List.Forall2

/-!
# Results that may be errors

What is known of a computation that may fail when it does not: each step of it has a result, and a
traversal of a list has one for each element.  The first element that fails makes a traversal
fail.  Two computations agree that fail in the same way or have related results, and they do when
their steps do.
-/

namespace MatchCriteria

variable {ε α β : Type}

theorem exists_of_bind_eq_ok {r : Except ε α} {f : α → Except ε β} {y : β}
    (h : r >>= f = .ok y) :
  ∃ x, r = .ok x ∧ f x = .ok y
  := by
  cases r with
  | ok x => exact ⟨x, rfl, h⟩
  | error e => cases h

theorem exists_of_map_eq_ok {r : Except ε α} {f : α → β} {y : β} (h : r.map f = .ok y) :
  ∃ x, r = .ok x ∧ f x = y
  := by
  cases r with
  | ok x =>
    cases h
    exact ⟨x, rfl, rfl⟩
  | error e => cases h

theorem eq_ok_of_mapError {ε' : Type} {r : Except ε α} {f : ε → ε'} {x : α}
    (h : r.mapError f = .ok x) :
  r = .ok x
  := by
  cases r with
  | ok x' =>
    cases h
    rfl
  | error e => cases h

theorem foldlM_singleton (f : β → α → Except ε β) (x : α) (y : β) :
  [x].foldlM f y = f y x
  := by
  rw [List.foldlM_cons]
  cases f y x <;> rfl

/-! ### Traversals -/

variable {f : α → Except ε β}

theorem mapM_cons_of_ok {x : α} {y : β} (h : f x = .ok y) (xs : List α) :
  (x :: xs).mapM f = (xs.mapM f).map (y :: ·)
  := by
  rw [List.mapM_cons, h]
  rfl

theorem mapM_cons_of_error {x : α} {e : ε} (h : f x = .error e) (xs : List α) :
  (x :: xs).mapM f = .error e
  := by
  rw [List.mapM_cons, h]
  rfl

/-- A traversal has results when each element has one. -/
theorem mapM_eq_ok_iff {xs : List α} {ys : List β} :
  xs.mapM f = .ok ys ↔ List.Forall₂ (fun x y => f x = .ok y) xs ys
  := by
  induction xs generalizing ys with
  | nil =>
    rw [List.mapM_nil, List.forall₂_nil_left_iff]
    constructor
    · rintro ⟨⟩
      rfl
    · rintro rfl
      rfl
  | cons x xs ih =>
    rw [List.forall₂_cons_left_iff]
    constructor
    · intro h
      obtain ⟨y, hy, h⟩ := exists_of_bind_eq_ok (List.mapM_cons.symm.trans h)
      obtain ⟨ys, hys, h⟩ := exists_of_bind_eq_ok h
      cases h
      exact ⟨y, ys, hy, ih.mp hys, rfl⟩
    · rintro ⟨y, ys, hy, hys, rfl⟩
      rw [mapM_cons_of_ok hy, ih.mpr hys]
      rfl

/-- Where a traversal has results, each element has one. -/
theorem forall_of_mapM_eq_ok {xs : List α} {ys : List β} (h : xs.mapM f = .ok ys) :
  ∀ x ∈ xs, ∃ y, f x = .ok y
  := by
  have hsteps := (mapM_eq_ok_iff.mp h).imp fun x y hy => And.intro (Exists.intro y hy) hy
  apply ((List.forall₂_and_left _ _).mp hsteps).1

/-- The first element without a result makes a traversal fail. -/
theorem mapM_append_of_error {before : List α} (hbefore : ∀ x ∈ before, ∃ y, f x = .ok y) {x : α}
    {e : ε} (h : f x = .error e) (after : List α) :
  (before ++ x :: after).mapM f = .error e
  := by
  induction before with
  | nil => apply mapM_cons_of_error h
  | cons first before ih =>
    rw [List.forall_mem_cons] at hbefore
    obtain ⟨⟨y, hy⟩, hbefore⟩ := hbefore
    rw [List.cons_append, mapM_cons_of_ok hy, ih hbefore]
    rfl

/-- A traversal fails as the first element does that has no result. -/
theorem mapM_eq_error_iff {xs : List α} {e : ε} :
  xs.mapM f = .error e ↔
    ∃ before x after, xs = before ++ x :: after ∧ (∀ y ∈ before, ∃ z, f y = .ok z) ∧
      f x = .error e
  := by
  constructor
  · intro h
    induction xs with
    | nil => cases h
    | cons x xs ih =>
      cases hx : f x with
      | error e' =>
        rw [mapM_cons_of_error hx] at h
        cases h
        exact ⟨[], x, xs, rfl, nofun, hx⟩
      | ok y =>
        cases hxs : xs.mapM f with
        | ok ys =>
          rw [mapM_cons_of_ok hx, hxs] at h
          cases h
        | error e' =>
          rw [mapM_cons_of_ok hx, hxs] at h
          cases h
          obtain ⟨before, x', after, rfl, hbefore, hx'⟩ := ih hxs
          refine ⟨x :: before, x', after, rfl, ?_, hx'⟩
          rw [List.forall_mem_cons]
          exact ⟨⟨y, hx⟩, hbefore⟩
  · rintro ⟨before, x, after, rfl, hbefore, hx⟩
    apply mapM_append_of_error hbefore hx

/-! ### Agreement -/

/-- Two results are the same error, or they are related. -/
inductive Agree (r : α → β → Prop) : Except ε α → Except ε β → Prop where
  | error (e : ε) : Agree r (.error e) (.error e)
  | ok {x : α} {y : β} (h : r x y) : Agree r (.ok x) (.ok y)

variable {γ δ : Type} {r : α → β → Prop}

theorem Agree.bind {r' : γ → δ → Prop} {x : Except ε α} {y : Except ε β} {f : α → Except ε γ}
    {g : β → Except ε δ} (h : Agree r x y) (hstep : ∀ a b, r a b → Agree r' (f a) (g b)) :
  Agree r' (x >>= f) (y >>= g)
  := by
  cases h with
  | error e => exact .error e
  | ok h => exact hstep _ _ h

/-- Folds over one list agree when their steps do. -/
theorem Agree.foldlM {f : α → γ → Except ε α} {g : β → γ → Except ε β} {xs : List γ}
    (hstep : ∀ x ∈ xs, ∀ a b, r a b → Agree r (f a x) (g b x)) {a : α} {b : β} (h : r a b) :
  Agree r (xs.foldlM f a) (xs.foldlM g b)
  := by
  induction xs generalizing a b with
  | nil => exact .ok h
  | cons x xs ih =>
    rw [List.forall_mem_cons] at hstep
    rw [List.foldlM_cons, List.foldlM_cons]
    apply (hstep.1 a b h).bind
    intro a' b' h'
    apply ih hstep.2 h'

end MatchCriteria
