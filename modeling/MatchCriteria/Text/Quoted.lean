import MatchCriteria.Number.Hex
import MatchCriteria.Unicode.Property

/-!
# Quoted text

A text in double quotes, in which a reader can tell every character: quotes, backslashes and
the common controls have short escapes, and a character that does not show by itself, or
that is a mark on the one before it, is written as its code point.  Characters count as
assigned by version 17.0 of the standard, one later than that of the tables.
-/

namespace MatchCriteria.Text

/-- The code points that version 17.0 of the standard assigned first, marks on other
characters apart. -/
def laterAssigned : Unicode.CodePointSet :=
  .ofTable [
    "88F C5C CDC 20C1 2B96 A7CE-A7CF A7D2 A7D4 A7F1 FBC3-FBD2 FD90-FD91 FDC8-FDCE 10940-10959",
    "10EC5-10EC7 10ED0-10ED8 11B61 11B65 11B67 11DB0-11DDB 11DE0-11DE9 16EA0-16EB8 16EBB-16ED3",
    "16FF2-16FF6 187F8-187FF 18D09-18D1E 18D80-18DF2 1CCFA-1CCFC 1CEBA-1CED0 1CEE0-1CEF0",
    "1E6C0-1E6DE 1E6E0-1E6E2 1E6E4-1E6E5 1E6E7-1E6ED 1E6F0-1E6F4 1E6FE-1E6FF 1F6D8",
    "1F777-1F77A 1F8D0-1F8D8 1FA54-1FA57 1FA8A 1FA8E 1FAC8 1FACD 1FAEA 1FAEF 1FBFA 2B73A-2B73F",
    "2CEA2-2CEAD 323B0-33479"]

/-- The code points that show: assigned, no control, format character or private use, none
that may be ignored, and no separator but the space. -/
def printable : Unicode.CodePointSet :=
  (((Unicode.categorized.union laterAssigned).diff
    (Unicode.categories ["Cc", "Cf", "Co", "Zl", "Zp", "Zs"])).diff
      Unicode.defaultIgnorable).union (.singleton 0x20)

/-- The marks on the character before them. -/
def joinedMarks : Unicode.CodePointSet :=
  Unicode.graphemeExtend.inter (Unicode.categories ["Mn", "Mc", "Me"])

/-- A character as its code point in hexadecimal. -/
def codePointEscape (c : Char) : List Char :=
  ['\\', 'u', '\x7b'] ++ Number.Hex.digits c.toNat ++ ['\x7d']

/-- A character as it stands between the quotes. -/
def quotedChar (c : Char) : List Char :=
  match c with
  | '\x00' => ['\\', '0']
  | '\t' => ['\\', 't']
  | '\n' => ['\\', 'n']
  | '\r' => ['\\', 'r']
  | '"' => ['\\', '"']
  | '\\' => ['\\', '\\']
  | c =>
    if joinedMarks.contains c.toNat || !printable.contains c.toNat then
      codePointEscape c
    else [c]

/-- A text in quotes. -/
def quoted (text : String) : String :=
  String.ofList (['"'] ++ text.toList.flatMap quotedChar ++ ['"'])

end MatchCriteria.Text
