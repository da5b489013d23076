import MatchCriteria.Text.Utf8
import MatchCriteria.Unicode.CodePointSet

/-!
# Ranges of characters as ranges of bytes

The encodings of a range of characters are, in a few pieces, all the sequences of bytes that
fall into a sequence of ranges of bytes.  A piece holds characters of one length, and each of
its bytes after the first that varies runs through all the bytes that continue a character.
-/

namespace MatchCriteria.Pattern

/-- A range of bytes. -/
abbrev ByteRange := Nat × Nat

/-- The bytes of a code point. -/
def codePointBytes (c : Nat) : List Nat :=
  (String.utf8EncodeChar (Char.ofNat c)).map UInt8.toNat

/-- The ranges of the bytes between the encodings of two characters of one length. -/
def encodedRange (a b : Nat) : List ByteRange := (codePointBytes a).zip (codePointBytes b)

/-- Where a range of characters has to be cut: the last code point before the cut. -/
def cut? (a b : Nat) : Option Nat :=
  let ends := [0x7F, 0x7FF, 0xFFFF].find? fun last => a ≤ last && last < b
  match ends with
  | some last => some last
  | none =>
    if b ≤ 0x7F then none
    else
      [0x40, 0x1000, 0x40000].findSome? fun block =>
        if a / block ≠ b / block then
          if a % block ≠ 0 then some (a / block * block + block - 1)
          else if b % block ≠ block - 1 then some (b / block * block - 1)
          else none
        else none

/-- The sequences of ranges of bytes of a range of characters without surrogates.  The fuel
bounds the cuts that follow from one another. -/
def byteSequences : Nat → Nat → Nat → List (List ByteRange)
  | 0, a, b => [encodedRange a b]
  | fuel + 1, a, b =>
    match cut? a b with
    | some last => byteSequences fuel a last ++ byteSequences fuel (last + 1) b
    | none => [encodedRange a b]

/-- The sequences of ranges of bytes of the characters of a set, in ascending order. -/
def setSequences (s : Unicode.CodePointSet) : List (List ByteRange) :=
  (s.diff ⟨#[Unicode.surrogates]⟩).ranges.toList.flatMap fun r => byteSequences 16 r.1 r.2

end MatchCriteria.Pattern
