import MatchCriteria.Json.Field
import MatchCriteria.Pattern.Compile
import MatchCriteria.Unicode.Case

/-!
# Text matchers

A text matcher is a literal, which a text matches that contains it, or a pattern, which a
text matches in which it is found.  It is written compactly, where a pattern stands between
slashes; or as an object with the field `value` and, for a pattern, the field `matchType`.
-/

namespace MatchCriteria

/-- How the value of a structured text matcher is meant. -/
inductive MatchType where
  /-- As a literal. -/
  | contains
  /-- As a pattern. -/
  | pcre
  deriving DecidableEq, Repr

namespace MatchType

/-- The keyword of a match type. -/
def keyword : MatchType → String
  | contains => "contains"
  | pcre => "pcre"

/-- The match type of a keyword, whatever the case of its letters. -/
def ofKeyword (text : String) : Except MatcherError MatchType :=
  let lower := String.ofList (Unicode.lowercaseText text.toList)
  if lower = contains.keyword then .ok contains
  else if lower = pcre.keyword then .ok pcre
  else .error (.unknownOperator text)

end MatchType

/-- A predicate on texts, given as bytes. -/
inductive TextMatcher where
  /-- Matches what contains the value. -/
  | literal (value : String)
  /-- Matches that in which the pattern of the source is found. -/
  | regex (source : String) (program : Pattern.Expr)
      (compiles : Pattern.compile source = .ok program)

namespace TextMatcher

/-- The literal, or the source of the pattern. -/
def value : TextMatcher → String
  | literal v => v
  | regex s _ _ => s

/-- Whether the matcher is a pattern. -/
def isRegex : TextMatcher → Bool
  | literal _ => false
  | regex _ _ _ => true

/-- How the value of the matcher is meant. -/
def matchType : TextMatcher → MatchType
  | literal _ => .contains
  | regex _ _ _ => .pcre

/-- A matcher is known by its value and by how that is meant, since a source compiles to one
program. -/
theorem eq_iff (a b : TextMatcher) :
  a = b ↔ a.isRegex = b.isRegex ∧ a.value = b.value
  := by
  constructor
  · rintro rfl
    exact ⟨rfl, rfl⟩
  · rintro ⟨hk, hv⟩
    cases a with
    | literal v =>
      cases b with
      | literal w =>
        cases hv
        rfl
      | regex s p h => cases hk
    | regex s p h =>
      cases b with
      | literal w => cases hk
      | regex t q g =>
        cases hv
        have hp : p = q := Except.ok.inj (h.symm.trans g)
        cases hp
        rfl

instance : DecidableEq TextMatcher := fun a b => decidable_of_iff _ (eq_iff a b).symm

/-- Whether one list is a part of another. -/
def isPart (part : List UInt8) : List UInt8 → Bool
  | [] => part.isEmpty
  | b :: bs => part.isPrefixOf (b :: bs) || isPart part bs

/-- Whether a text, given as bytes, matches. -/
def Matches (m : TextMatcher) (candidate : ByteArray) : Bool :=
  match m with
  | literal v => isPart (Text.utf8 v.toList) candidate.data.toList
  | regex _ program _ => program.search candidate.data

/-- The matcher of a pattern. -/
def ofPattern (source : String) : Except MatcherError TextMatcher :=
  match h : Pattern.compile source with
  | .ok program => .ok (regex source program h)
  | .error reason => .error (.invalidPattern source reason)

/-- What stands between a slash at the start and another one at the end of a text. -/
def betweenSlashes? (text : List Char) : Option (List Char) :=
  match text with
  | '/' :: rest => if rest.getLast? = some '/' then some rest.dropLast else none
  | _ => none

/-- The matcher that is written compactly. -/
def ofCompact (text : String) : Except MatcherError TextMatcher :=
  match betweenSlashes? text.toList with
  | some source => ofPattern (String.ofList source)
  | none => .ok (literal text)

/-- The matcher of a value that is meant in some way. -/
def ofValue (matchType : MatchType) (value : String) : Except MatcherError TextMatcher :=
  match matchType with
  | .contains => .ok (literal value)
  | .pcre => ofPattern value

/-- The matcher of an object whose fields that hold strings are read by `field`, which is
given the name of a field and whether it is required. -/
def ofFields (field : String → Bool → Except MatcherError (Option String)) :
    Except MatcherError TextMatcher := do
  match ← field "value" true with
  | none => throw (.schema (.missing "value"))
  | some value =>
    match ← field "matchType" false with
    | none => ofValue .contains value
    | some keyword => ofValue (← MatchType.ofKeyword keyword) value

/-- The matcher of the members of an object. -/
def ofMembers (members : List (String × Json.Value)) : Except MatcherError TextMatcher :=
  ofFields (Json.stringMember members)

/-- The matcher of a value that has to be an object. -/
def ofStructured (v : Json.Value) : Except MatcherError TextMatcher :=
  ofFields (Json.stringField v)

/-- The matcher that a JSON value describes: a string is the compact form, an object the
structured one. -/
def ofJson : Json.Value → Except MatcherError TextMatcher
  | .string text => ofCompact text
  | .object members => ofMembers members
  | v => .error (.unacceptedKind v.kind)

/-- The compact form. -/
def render : TextMatcher → String
  | literal v => v
  | regex s _ _ => "/" ++ s ++ "/"

/-- Whether a text looks like the compact form of a pattern: it takes two bytes at least, and
starts and ends with a slash. -/
def isSlashed (text : String) : Bool :=
  2 ≤ text.utf8ByteSize && text.toList.head? = some '/' && text.toList.getLast? = some '/'

/-- The JSON value that describes the matcher: the compact form, except for a literal whose
compact form looks like that of a pattern. -/
def encode (m : TextMatcher) : Json.Value :=
  match m with
  | literal v =>
    if isSlashed v then
      .object [("value", .string v), ("matchType", .string MatchType.contains.keyword)]
    else .string v
  | regex _ _ _ => .string m.render

end TextMatcher

end MatchCriteria
