import MatchCriteria.Unicode.AgeTable
import MatchCriteria.Unicode.CategoryTable
import MatchCriteria.Unicode.CodePointSet
import MatchCriteria.Unicode.PropertyTable
import MatchCriteria.Unicode.ScriptTable
import MatchCriteria.Unicode.SegmentationTable

/-!
# Properties of code points by name

A property is named alone, as in `Greek`, `Lu` or `Alphabetic`, or with a value, as in
`Script=Greek`.  Names are compared without regard to case, blanks, `_` and `-`, and without
a leading `is`.  The tables are those of version 16.0 of the standard, and the derived
properties are computed from them as the standard defines them.
-/

namespace MatchCriteria.Unicode

/-- Why a name denotes no set. -/
inductive LookupError where
  /-- No property has the name. -/
  | unknownProperty
  /-- The property is known, and has no set for the value. -/
  | unknownValue
  deriving DecidableEq, Repr

/-- A name in the form in which names are compared.  The name `isc` is kept whole. -/
def symbolicName (name : String) : String :=
  let plain (cs : List Char) : List Char :=
    (cs.filter fun c => c ≠ ' ' && c ≠ '_' && c ≠ '-' && c.toNat ≤ 0x7F).map Char.toLower
  match name.toList with
  | a :: b :: rest =>
    if (a = 'i' || a = 'I') && (b = 's' || b = 'S') then
      let short := plain rest
      if short = ['c'] then "isc" else String.ofList short
    else String.ofList (plain (a :: b :: rest))
  | cs => String.ofList (plain cs)

/-- The set of a table entry that has the name. -/
def named? (table : List (List String × List String)) (name : String) : Option CodePointSet :=
  (table.find? fun entry => entry.1.contains name).map fun entry =>
    CodePointSet.ofTable entry.2

/-- The set of the property of this name in the table of properties. -/
def property (name : String) : CodePointSet := (named? propertyTable name).getD .empty

/-- The code points of the general categories with these short names. -/
def categories (names : List String) : CodePointSet :=
  .unions ((categoryTable.filter fun entry => names.contains entry.1).map fun entry =>
    .ofTable entry.2)

/-- The code points with a general category of the table. -/
def categorized : CodePointSet :=
  .unions (categoryTable.map fun entry => .ofTable entry.2)

/-- The code points that are assigned to nothing. -/
def unassigned : CodePointSet := categorized.complement

/-- The names of each general category and group of categories, and the short names of the
members. -/
def categoryNames : List (List String × List String) := [
  (["lu", "uppercaseletter"], ["Lu"]),
  (["ll", "lowercaseletter"], ["Ll"]),
  (["lt", "titlecaseletter"], ["Lt"]),
  (["lc", "casedletter"], ["Lu", "Ll", "Lt"]),
  (["lm", "modifierletter"], ["Lm"]),
  (["lo", "otherletter"], ["Lo"]),
  (["l", "letter"], ["Lu", "Ll", "Lt", "Lm", "Lo"]),
  (["mn", "nonspacingmark"], ["Mn"]),
  (["mc", "spacingmark"], ["Mc"]),
  (["me", "enclosingmark"], ["Me"]),
  (["m", "mark", "combiningmark"], ["Mn", "Mc", "Me"]),
  (["nd", "decimalnumber", "digit"], ["Nd"]),
  (["nl", "letternumber"], ["Nl"]),
  (["no", "othernumber"], ["No"]),
  (["n", "number"], ["Nd", "Nl", "No"]),
  (["pc", "connectorpunctuation"], ["Pc"]),
  (["pd", "dashpunctuation"], ["Pd"]),
  (["ps", "openpunctuation"], ["Ps"]),
  (["pe", "closepunctuation"], ["Pe"]),
  (["pi", "initialpunctuation"], ["Pi"]),
  (["pf", "finalpunctuation"], ["Pf"]),
  (["po", "otherpunctuation"], ["Po"]),
  (["p", "punctuation", "punct"], ["Pc", "Pd", "Ps", "Pe", "Pi", "Pf", "Po"]),
  (["sm", "mathsymbol"], ["Sm"]),
  (["sc", "currencysymbol"], ["Sc"]),
  (["sk", "modifiersymbol"], ["Sk"]),
  (["so", "othersymbol"], ["So"]),
  (["s", "symbol"], ["Sm", "Sc", "Sk", "So"]),
  (["zs", "spaceseparator"], ["Zs"]),
  (["zl", "lineseparator"], ["Zl"]),
  (["zp", "paragraphseparator"], ["Zp"]),
  (["z", "separator"], ["Zs", "Zl", "Zp"]),
  (["cc", "control", "cntrl"], ["Cc"]),
  (["cf", "format"], ["Cf"]),
  (["co", "privateuse"], ["Co"])]

/-- The code points of the general category of a name, if it is the name of one. -/
def category? (name : String) : Option (Except LookupError CodePointSet) :=
  if name = "any" then some (.ok (.range 0 lastCodePoint))
  else if name = "assigned" then some (.ok categorized)
  else if name = "ascii" then some (.ok (.range 0 0x7F))
  else if name = "cn" || name = "unassigned" then some (.ok unassigned)
  else if name = "c" || name = "other" then
    some (.ok ((categories ["Cc", "Cf", "Co"]).union unassigned))
  else if name = "cs" || name = "surrogate" then some (.error .unknownValue)
  else (categoryNames.find? fun entry => entry.1.contains name).map fun entry =>
    .ok (categories entry.2)

/-- The code points of the script of a name, if it is the name of one. -/
def script? (name : String) : Option (Except LookupError CodePointSet) :=
  if ["hrkt", "katakanaorhiragana", "zzzz", "unknown"].contains name then
    some (.error .unknownValue)
  else (named? scriptTable name).map .ok

/-- The code points whose script extensions name a script. -/
def scriptExtension (name : String) : Except LookupError CodePointSet :=
  match scriptTable.find? fun entry => entry.1.contains name with
  | none => .error .unknownValue
  | some entry =>
    match scriptExtensionTable.find? fun extension => entry.1.contains extension.1 with
    | some extension => .ok (.ofTable extension.2)
    | none => .ok (.ofTable entry.2)

/-- The code points that were assigned in a version, written `3.0` or `v30`, or before. -/
def assignedBy (version : String) : Except LookupError CodePointSet :=
  let isVersion (entry : String × List String) : Bool :=
    entry.1 = version || "v" ++ String.ofList (entry.1.toList.filter (· ≠ '.')) = version
  match ageTable.findIdx? isVersion with
  | none => .error .unknownValue
  | some i => .ok (.unions ((ageTable.take (i + 1)).map fun entry => .ofTable entry.2))

/-- The code points with the property `Lowercase`. -/
def lowercase : CodePointSet := (categories ["Ll"]).union (property "olower")

/-- The code points with the property `Uppercase`. -/
def uppercase : CodePointSet := (categories ["Lu"]).union (property "oupper")

/-- The code points with the property `Alphabetic`. -/
def alphabetic : CodePointSet :=
  .unions [lowercase, uppercase, categories ["Lt", "Lm", "Lo", "Nl"], property "oalpha"]

/-- The code points with the property `Cased`. -/
def cased : CodePointSet := .unions [lowercase, uppercase, categories ["Lt"]]

/-- The code points with the property `Case_Ignorable`. -/
def caseIgnorable : CodePointSet :=
  (categories ["Mn", "Me", "Cf", "Lm", "Sk"]).union
    (.ofTable ["27 2E 3A B7 387 55F 5F4 2018-2019 2024 2027 FE13 FE52 FE55 FF07 FF0E FF1A"])

/-- The code points with the property `Grapheme_Extend`. -/
def graphemeExtend : CodePointSet := (categories ["Mn", "Me"]).union (property "ogrext")

/-- The code points with the property `Grapheme_Base`. -/
def graphemeBase : CodePointSet :=
  categorized.diff ((categories ["Cc", "Cf", "Co", "Zl", "Zp"]).union graphemeExtend)

/-- The code points with the property `ID_Start`. -/
def idStart : CodePointSet :=
  ((categories ["Lu", "Ll", "Lt", "Lm", "Lo", "Nl"]).union (property "oids")).diff
    ((property "patsyn").union (property "patws"))

/-- The code points with the property `ID_Continue`. -/
def idContinue : CodePointSet :=
  .unions [idStart, categories ["Mn", "Mc", "Nd", "Pc"], property "oidc"]

/-- The code points that start or continue identifiers, but whose compatibility forms do
not. -/
def notIdentifierWhenNormalized : CodePointSet :=
  .ofTable ["37A 309B-309C FC5E-FC63 FDFA-FDFB FE70-FE7E/2"]

/-- The code points with the property `XID_Start`. -/
def xidStart : CodePointSet :=
  idStart.diff (notIdentifierWhenNormalized.union (.ofTable ["E33 EB3 FF9E-FF9F"]))

/-- The code points with the property `XID_Continue`. -/
def xidContinue : CodePointSet := idContinue.diff notIdentifierWhenNormalized

/-- The code points with the property `Default_Ignorable_Code_Point`. -/
def defaultIgnorable : CodePointSet :=
  (CodePointSet.unions [property "odi", categories ["Cf"], property "vs"]).diff
    (.unions [property "wspace", property "pcm", .ofTable ["FFF9-FFFB 13430-13440"]])

/-- The code points of a derived property, if the name is that of one. -/
def derived? (name : String) : Option CodePointSet :=
  match name with
  | "alpha" | "alphabetic" => some alphabetic
  | "ci" | "caseignorable" => some caseIgnorable
  | "cased" => some cased
  | "di" | "defaultignorablecodepoint" => some defaultIgnorable
  | "grbase" | "graphemebase" => some graphemeBase
  | "grext" | "graphemeextend" => some graphemeExtend
  | "idc" | "idcontinue" => some idContinue
  | "ids" | "idstart" => some idStart
  | "lower" | "lowercase" => some lowercase
  | "math" => some ((categories ["Sm"]).union (property "omath"))
  | "upper" | "uppercase" => some uppercase
  | "xidc" | "xidcontinue" => some xidContinue
  | "xids" | "xidstart" => some xidStart
  | _ => none

/-- The code points of word characters: letters, marks, decimal digits, connectors and the
controls of joining. -/
def word : CodePointSet :=
  .unions [alphabetic, categories ["Mn", "Mc", "Me", "Nd", "Pc"], property "joinc"]

/-- The decimal digits. -/
def decimalDigits : CodePointSet := categories ["Nd"]

/-- White space. -/
def whiteSpace : CodePointSet := property "wspace"

/-- The names of the properties that have values, or of which no set is kept. -/
def valuedPropertyNames : List String := [
  "age", "bc", "bidiclass", "bidimirroringglyph", "bidipairedbracket",
  "bidipairedbrackettype", "blk", "block", "bmg", "bpb", "bpt", "canonicalcombiningclass",
  "casefolding", "ccc", "ce", "cf", "changeswhennfkccasefolded", "cjkaccountingnumeric",
  "cjkcompatibilityvariant", "cjkiicore", "cjkirggsource", "cjkirghsource",
  "cjkirgjsource", "cjkirgkpsource", "cjkirgksource", "cjkirgmsource", "cjkirgssource",
  "cjkirgtsource", "cjkirguksource", "cjkirgusource", "cjkirgvsource", "cjkothernumeric",
  "cjkprimarynumeric", "cjkrsunicode", "compex", "compositionexclusion", "cwkcf",
  "decompositionmapping", "decompositiontype", "dm", "dt", "ea", "eastasianwidth",
  "equideo", "equivalentunifiedideograph", "expandsonnfc", "expandsonnfd",
  "expandsonnfkc", "expandsonnfkd", "fcnfkc", "fcnfkcclosure", "fullcompositionexclusion",
  "gc", "gcb", "generalcategory", "graphemeclusterbreak", "hangulsyllabletype", "hst",
  "incb", "indicconjunctbreak", "indicpositionalcategory", "indicsyllabiccategory",
  "inpc", "insc", "isc", "jamoshortname", "jg", "joininggroup", "joiningtype", "jsn",
  "jt", "kaccountingnumeric", "kcompatibilityvariant", "kehcat", "kehdesc", "kehhg",
  "kehifao", "kehjsesh", "kehnomirror", "kehnorotate", "kiicore", "kirggsource",
  "kirghsource", "kirgjsource", "kirgkpsource", "kirgksource", "kirgmsource",
  "kirgssource", "kirgtsource", "kirguksource", "kirgusource", "kirgvsource",
  "kothernumeric", "kprimarynumeric", "krsunicode", "lb", "lc", "linebreak",
  "lowercasemapping", "na", "na1", "name", "namealias", "nfcqc", "nfcquickcheck", "nfdqc",
  "nfdquickcheck", "nfkccasefold", "nfkccf", "nfkcqc", "nfkcquickcheck", "nfkcscf",
  "nfkcsimplecasefold", "nfkdqc", "nfkdquickcheck", "nt", "numerictype", "numericvalue",
  "nv", "ocomment", "sb", "sc", "scf", "script", "scriptextensions", "scx",
  "sentencebreak", "sfc", "simplecasefolding", "simplelowercasemapping",
  "simpletitlecasemapping", "simpleuppercasemapping", "slc", "stc", "suc", "tc",
  "titlecasemapping", "uc", "unicode1name", "unicoderadicalstroke", "uppercasemapping",
  "urs", "verticalorientation", "vo", "wb", "wordbreak", "xonfc", "xonfd", "xonfkc",
  "xonfkd"]

/-- The set that a name denotes alone.  The names `cf`, `sc` and `lc` are those of general
categories, though properties have them too. -/
def lookup (name : String) : Except LookupError CodePointSet :=
  let key := symbolicName name
  let property? : Option (Except LookupError CodePointSet) :=
    if key = "cf" || key = "sc" || key = "lc" then none
    else if valuedPropertyNames.contains key then some (.error .unknownProperty)
    else ((derived? key).orElse fun _ => named? propertyTable key).map .ok
  match (property?.orElse fun _ => category? key).orElse fun _ => script? key with
  | some result => result
  | none => .error .unknownProperty

/-- The set that a name and a value denote together. -/
def lookupValue (name value : String) : Except LookupError CodePointSet :=
  let known (found : Option (Except LookupError CodePointSet)) :
      Except LookupError CodePointSet :=
    found.getD (.error .unknownValue)
  let value := symbolicName value
  match symbolicName name with
  | "gc" | "generalcategory" => known (category? value)
  | "sc" | "script" => known (script? value)
  | "scx" | "scriptextensions" => scriptExtension value
  | "age" => assignedBy value
  | "gcb" | "graphemeclusterbreak" => known ((named? graphemeClusterTable value).map .ok)
  | "wb" | "wordbreak" => known ((named? wordBreakTable value).map .ok)
  | "sb" | "sentencebreak" => known ((named? sentenceBreakTable value).map .ok)
  | key =>
    if valuedPropertyNames.contains key || (derived? key).isSome ||
        (named? propertyTable key).isSome then .error .unknownValue
    else .error .unknownProperty

end MatchCriteria.Unicode
