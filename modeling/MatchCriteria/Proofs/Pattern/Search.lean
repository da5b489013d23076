import MatchCriteria.Pattern.Expr
import Mathlib.Data.List.Basic

/-!
# Searching for literals

Literals one after the other are one literal, and that is found in bytes exactly when its own
bytes stand together among them.
-/

namespace MatchCriteria.Pattern

/-- A literal stands at a position when the bytes from there on start with it. -/
theorem literalAt_iff (bytes : Array UInt8) (p : Nat) (bs : List UInt8) :
  literalAt bytes p bs = true ↔ bs <+: bytes.toList.drop p
  := by
  induction bs generalizing p with
  | nil => exact ⟨fun _ => List.nil_prefix, fun _ => rfl⟩
  | cons b bs ih =>
    have hhead : (bytes.toList.drop p).head? = bytes[p]? := by
      rw [List.head?_drop, Array.getElem?_toList]
    have htail : (bytes.toList.drop p).tail = bytes.toList.drop (p + 1) := List.tail_drop
    rw [literalAt, Bool.and_eq_true, decide_eq_true_iff, ih, ← hhead, ← htail]
    cases bytes.toList.drop p with
    | nil => simp
    | cons b' bs' => rw [List.cons_prefix_cons, List.head?_cons, List.tail_cons, Option.some_inj,
        eq_comm]

theorem literalAt_append (bytes : Array UInt8) (p : Nat) (first second : List UInt8) :
  literalAt bytes p (first ++ second) =
    (literalAt bytes p first && literalAt bytes (p + first.length) second)
  := by
  induction first generalizing p with
  | nil => rfl
  | cons b first ih =>
    rw [List.cons_append, literalAt, literalAt, ih, List.length_cons, Bool.and_assoc,
      Nat.add_right_comm, Nat.add_assoc]

namespace Expr

/-- From no position a match leads to none. -/
theorem ends_nil (bytes : Array UInt8) (e : Expr) :
  e.ends bytes [] = []
  := by
  induction e with
  | empty => rfl
  | literal bs => rfl
  | character set => rfl
  | byte set => rfl
  | look condition => rfl
  | repeated min max operand ih =>
    have hfirst : iterate (operand.ends bytes) min [] = [] := by
      cases min with
      | zero => rfl
      | succ n => rw [iterate, ih, if_pos rfl]
    have hreach (n : Nat) : reach (operand.ends bytes) n [] [] = [] := by
      cases n with
      | zero => rfl
      | succ n =>
        rw [reach, ih, without]
        rfl
    simp only [ends, hfirst, hreach]
  | group remembered body ih => exact ih
  | seq a b iha ihb => rw [ends, iha]
  | alt a b iha ihb =>
    rw [ends, iha, ihb, merge]

/-- A sequence is the composition of its parts. -/
theorem ends_seq (bytes : Array UInt8) (a b : Expr) (ps : List Nat) :
  (seq a b).ends bytes ps = b.ends bytes (a.ends bytes ps)
  := by
  rw [ends]
  cases a.ends bytes ps with
  | nil => rw [ends_nil]
  | cons q qs => rfl

/-- A literal behind another one ends where the two of them as one literal do. -/
theorem ends_literal_append (bytes : Array UInt8) (first second : List UInt8) (ps : List Nat) :
  (literal second).ends bytes ((literal first).ends bytes ps) =
    (literal (first ++ second)).ends bytes ps
  := by
  simp only [ends, List.filterMap_filterMap]
  congr 1
  funext p
  rw [literalAt_append, List.length_append, ← Nat.add_assoc]
  cases literalAt bytes p first with
  | false => rfl
  | true => simp

/-- Literals one after the other are one literal. -/
theorem ends_sequence_literals (bytes : Array UInt8) (parts : List (List UInt8)) (ps : List Nat) :
  (sequence (parts.map literal)).ends bytes ps = (literal parts.flatten).ends bytes ps
  := by
  induction parts generalizing ps with
  | nil => exact List.filterMap_some.symm
  | cons part parts ih =>
    cases parts with
    | nil => rw [List.map_singleton, sequence, List.flatten_singleton]
    | cons next parts =>
      have hsequence : sequence ((part :: next :: parts).map literal) =
          seq (literal part) (sequence ((next :: parts).map literal)) := rfl
      rw [hsequence, ends_seq, ih, ends_literal_append]
      rfl

/-- A literal is found where its bytes stand together. -/
theorem search_literal_iff (bs : List UInt8) (bytes : Array UInt8) :
  (literal bs).search bytes = true ↔ bs <:+: bytes.toList
  := by
  rw [search, Bool.not_eq_true', List.isEmpty_eq_false_iff_exists_mem,
    List.infix_iff_prefix_suffix]
  simp only [ends, List.mem_filterMap, List.mem_range, Option.ite_none_right_eq_some,
    literalAt_iff]
  constructor
  · rintro ⟨-, p, -, h, -⟩
    exact ⟨_, h, List.drop_suffix p _⟩
  · rintro ⟨rest, hbs, before, hrest⟩
    have hlength : before.length < bytes.size + 1 := by
      rw [← Array.length_toList, ← hrest, List.length_append]
      omega
    refine ⟨_, before.length, hlength, ?_, rfl⟩
    rw [← hrest, List.drop_left]
    apply hbs

end Expr

end MatchCriteria.Pattern
