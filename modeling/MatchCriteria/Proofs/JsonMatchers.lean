import MatchCriteria.Matcher
import MatchCriteria.Proofs.Json.Refusal
import MatchCriteria.Proofs.Json.Streaming

/-!
# Matchers read from JSON texts

A list of matchers is read item by item.  This comes to the same as reading the text as a value
first, and then building the matcher of each item of it: the same texts are lists of matchers, and
of the same ones, and the first item that describes no matcher decides how the list is refused.
-/

namespace MatchCriteria

open Json (Value)

section Worded

variable {α : Type} {ofJson : Value → Except MatcherError α}

/-- What a value describes, or the words in which it is refused. -/
def worded (ofJson : Value → Except MatcherError α) (v : Value) : Except String α :=
  (ofJson v).mapError MatcherError.message

theorem worded_eq_ok_iff {v : Value} {x : α} :
  worded ofJson v = .ok x ↔ ofJson v = .ok x
  := by
  rw [worded]
  cases ofJson v with
  | ok y => simp [Except.mapError]
  | error e => simp [Except.mapError]

theorem worded_of_error {v : Value} {e : MatcherError} (h : ofJson v = .error e) :
  worded ofJson v = .error e.message
  := by
  rw [worded, h]
  rfl

/-- Reading a text agrees with reading it as a value first, and then building what the value
describes. -/
structure ReadsValues (ofJson : Value → Except MatcherError α) (text : String) : Prop where
  /-- A text is a list when it is an array each item of which describes something. -/
  list (xs : List α) : Json.readList (worded ofJson) text = .ok xs ↔
    ∃ vs, Json.read text = .ok (.array vs) ∧ List.Forall₂ (fun v x => ofJson v = .ok x) vs xs
  /-- A list is refused for the first item of the array that describes nothing. -/
  refused {before : List Value} {v : Value} {after : List Value} {e : MatcherError} :
    Json.read text = .ok (.array (before ++ v :: after)) →
      (∀ u ∈ before, ∃ x, ofJson u = .ok x) → ofJson v = .error e →
      ∃ error, Json.readList (worded ofJson) text = .error error ∧ error.Refuses e.message
  /-- A text is one thing when it is a value that describes this. -/
  single (x : α) : Json.readAs (worded ofJson) text = .ok x ↔
    ∃ v, Json.read text = .ok v ∧ ofJson v = .ok x

theorem readsValues (ofJson : Value → Except MatcherError α) (text : String) :
  ReadsValues ofJson text
  := by
  constructor
  case list =>
    intro xs
    simp only [Json.readList_eq_ok_iff, mapM_eq_ok_iff, worded_eq_ok_iff]
  case refused =>
    intro before v after e hread hbefore hv
    have hrefused : (before ++ v :: after).mapM (worded ofJson) = .error e.message := by
      apply mapM_append_of_error _ (worded_of_error hv)
      simpa only [worded_eq_ok_iff] using hbefore
    obtain ⟨p, hp⟩ := Json.readList_of_refused _ hread hrefused
    exact ⟨_, hp, Json.Error.refuses_locate_ofMessage _ p⟩
  case single =>
    intro x
    simp only [Json.readAs_eq_ok_iff, worded_eq_ok_iff]

end Worded

/-- Text matchers and number matchers are read from JSON texts, one of them or a list of them, as
they are built from JSON values. -/
theorem readsValues_matchers (text : String) :
  ReadsValues TextMatcher.ofJson text ∧ ReadsValues NumberMatcher.ofJson text
  := ⟨readsValues TextMatcher.ofJson text, readsValues NumberMatcher.ofJson text⟩

end MatchCriteria
