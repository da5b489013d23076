/-!
# UTF-8

The bytes of a text, the character that starts at an index of a sequence of bytes, and the
characters of bytes of which some belong to none.  A sequence that is too long for its
character, that denotes a surrogate, or that denotes nothing is no character.
-/

namespace MatchCriteria.Text

/-- The bytes of a text. -/
def utf8 (cs : List Char) : List UInt8 := cs.flatMap String.utf8EncodeChar

/-- The bytes of a text are read back as the text. -/
theorem fromUTF8?_toUTF8 (text : String) :
  String.fromUTF8? text.toUTF8 = some text
  := by
  unfold String.fromUTF8?
  split
  · rfl
  · rename_i h
    exact absurd text.isValidUTF8 h

/-- How many bytes a text takes. -/
def utf8Length (cs : List Char) : Nat := cs.foldl (fun n c => n + c.utf8Size) 0

/-- The six low bits of the byte at an index, if it continues a character. -/
def continuation? (bytes : Array UInt8) (i : Nat) : Option Nat :=
  match bytes[i]? with
  | some b => if 0x80 ≤ b && b ≤ 0xBF then some (b.toNat - 0x80) else none
  | none => none

/-- A code point of a number of bytes, if the bytes are the ones it has to be written with. -/
def scalar? (least code bytes : Nat) : Option (Nat × Nat) :=
  if least ≤ code && (code < 0xD800 || (0xDFFF < code && code ≤ 0x10FFFF)) then
    some (code, bytes)
  else none

/-- The code point that starts at an index, and the number of its bytes. -/
def decodeAt? (bytes : Array UInt8) (i : Nat) : Option (Nat × Nat) := do
  let b ← bytes[i]?
  let n := b.toNat
  if n < 0x80 then some (n, 1)
  else if n < 0xC0 then none
  else if n < 0xE0 then
    let c₁ ← continuation? bytes (i + 1)
    scalar? 0x80 ((n - 0xC0) * 0x40 + c₁) 2
  else if n < 0xF0 then
    let c₁ ← continuation? bytes (i + 1)
    let c₂ ← continuation? bytes (i + 2)
    scalar? 0x800 (((n - 0xE0) * 0x40 + c₁) * 0x40 + c₂) 3
  else if n < 0xF8 then
    let c₁ ← continuation? bytes (i + 1)
    let c₂ ← continuation? bytes (i + 2)
    let c₃ ← continuation? bytes (i + 3)
    scalar? 0x10000 ((((n - 0xF0) * 0x40 + c₁) * 0x40 + c₂) * 0x40 + c₃) 4
  else none

/-- The least and greatest byte that may follow a first byte, and how many bytes follow it in
all; `none` if no character starts with it. -/
def followers? (first : UInt8) : Option (UInt8 × UInt8 × Nat) :=
  if first < 0xC2 then none
  else if first < 0xE0 then some (0x80, 0xBF, 1)
  else if first = 0xE0 then some (0xA0, 0xBF, 2)
  else if first = 0xED then some (0x80, 0x9F, 2)
  else if first < 0xF0 then some (0x80, 0xBF, 2)
  else if first = 0xF0 then some (0x90, 0xBF, 3)
  else if first < 0xF4 then some (0x80, 0xBF, 3)
  else if first = 0xF4 then some (0x80, 0x8F, 3)
  else none

/-- How many of the bytes after a first byte belong to the character that it starts, or could
belong to one. -/
def followersIn (first : UInt8) (rest : List UInt8) : Nat :=
  match followers? first with
  | none => 0
  | some (least, greatest, count) =>
    match rest with
    | b :: bs =>
      if least ≤ b && b ≤ greatest then
        1 + ((bs.take (count - 1)).takeWhile fun c => 0x80 ≤ c && c ≤ 0xBF).length
      else 0
    | [] => 0

/-- The characters of a sequence of bytes; `none` stands for bytes that could have started a
character and do not. -/
def characters (bytes : List UInt8) : List (Option Char) :=
  match bytes with
  | [] => []
  | b :: rest =>
    let n := followersIn b rest
    let c := (decodeAt? (b :: rest.take n).toArray 0).map fun d => Char.ofNat d.1
    c :: characters (rest.drop n)
termination_by bytes.length
decreasing_by
  rw [List.length_drop, List.length_cons]
  omega

end MatchCriteria.Text
