import TicketRouting.Text.Basic
import TicketRouting.Unicode.AgeTable
import TicketRouting.Unicode.BinaryTable
import TicketRouting.Unicode.BreakTable
import TicketRouting.Unicode.CategoryTable
import TicketRouting.Unicode.CodeSet
import TicketRouting.Unicode.ScriptExtensionTable
import TicketRouting.Unicode.ScriptTable
/-!
Properties of code points by name, in version 16.0 of the standard. What the standard defines from
other properties is defined from them here; all else is read from the tables. Names are compared
without regard to ASCII case, spaces, hyphens and underscores, and a leading `is` does not count.
-/
namespace TicketRouting.Unicode

/-- The entry of the first key that has the name among its words. -/
def named (table : List (String × String)) (name : String) : Option CodeSet :=
  (table.find? fun (names, _) => (CodeSet.words names).contains name).map fun (_, text) =>
    CodeSet.ofText text

def categories (names : List String) : CodeSet :=
  CodeSet.unionAll (names.filterMap (named categoryTable))

def binary (name : String) : CodeSet := (named binaryTable name).getD CodeSet.empty

def assigned : CodeSet := CodeSet.unionAll (categoryTable.map fun (_, text) => CodeSet.ofText text)

def letterCategories : List String := ["Lu", "Ll", "Lt", "Lm", "Lo"]

def markCategories : List String := ["Mn", "Mc", "Me"]

def alphabetic : CodeSet :=
  (categories (letterCategories ++ ["Nl"])).union (binary "otheralphabetic")

def lowercase : CodeSet := (categories ["Ll"]).union (binary "otherlowercase")

def uppercase : CodeSet := (categories ["Lu"]).union (binary "otheruppercase")

def caseIgnorable : CodeSet :=
  (categories ["Mn", "Me", "Cf", "Lm", "Sk"]).union
    (CodeSet.ofText
      "27 2e 3a b7 387 55f 5f4 2018-2019 2024 2027 fe13 fe52 fe55 ff07 ff0e ff1a")

def graphemeExtend : CodeSet := (categories ["Me", "Mn"]).union (binary "othergraphemeextend")

def whiteSpace : CodeSet := CodeSet.ofRanges Text.blankRanges

def decimalDigits : CodeSet := categories ["Nd"]

def wordCharacters : CodeSet :=
  CodeSet.unionAll [alphabetic, categories (markCategories ++ ["Nd", "Pc"]), binary "joincontrol"]

def idStart : CodeSet :=
  ((categories (letterCategories ++ ["Nl"])).union (binary "otheridstart")).diff
    (CodeSet.single 0x2E2F)

def idContinue : CodeSet :=
  CodeSet.unionAll [idStart, categories ["Mn", "Mc", "Nd", "Pc"], binary "otheridcontinue"]

/-- Characters whose compatibility form may not stand where they do in an identifier. -/
def unstableInside : CodeSet := CodeSet.ofText "37a 309b-309c fc5e-fc63 fdfa-fdfb fe70-fe7e/2"

def unstableAtStart : CodeSet := unstableInside.union (CodeSet.ofText "e33 eb3 ff9e-ff9f")

def derived? : String → Option CodeSet
  | "alphabetic" | "alpha" => some alphabetic
  | "lowercase" | "lower" => some lowercase
  | "uppercase" | "upper" => some uppercase
  | "cased" => some (CodeSet.unionAll [lowercase, uppercase, categories ["Lt"]])
  | "caseignorable" | "ci" => some caseIgnorable
  | "whitespace" | "wspace" | "space" => some whiteSpace
  | "math" => some ((categories ["Sm"]).union (binary "othermath"))
  | "graphemeextend" | "grext" => some graphemeExtend
  | "graphemebase" | "grbase" =>
    some (assigned.diff
      ((categories ["Cc", "Cf", "Co", "Zl", "Zp"]).union graphemeExtend))
  | "idstart" | "ids" => some idStart
  | "idcontinue" | "idc" => some idContinue
  | "xidstart" | "xids" => some (idStart.diff unstableAtStart)
  | "xidcontinue" | "xidc" => some (idContinue.diff unstableInside)
  | "changeswhencasemapped" | "cwcm" =>
    some (CodeSet.unionAll [binary "changeswhenlowercased", binary "changeswhenuppercased",
      binary "changeswhentitlecased"])
  | "asciihexdigit" | "ahex" => some (CodeSet.ofText "30-39 41-46 61-66")
  | _ => none

def yesOrNo? (name : String) : Option CodeSet :=
  match derived? name with
  | some set => some set
  | none => named binaryTable name

def categoryNames : List (String × List String) := [
  ("c other", ["Cc", "Cf", "Cn", "Co"]), ("cc control cntrl", ["Cc"]), ("cf format", ["Cf"]),
  ("cn unassigned", ["Cn"]), ("co privateuse", ["Co"]),
  ("l letter", letterCategories), ("lc casedletter", ["Lu", "Ll", "Lt"]),
  ("ll lowercaseletter", ["Ll"]), ("lm modifierletter", ["Lm"]), ("lo otherletter", ["Lo"]),
  ("lt titlecaseletter", ["Lt"]), ("lu uppercaseletter", ["Lu"]),
  ("m mark combiningmark", markCategories), ("mc spacingmark", ["Mc"]),
  ("me enclosingmark", ["Me"]), ("mn nonspacingmark", ["Mn"]),
  ("n number", ["Nd", "Nl", "No"]), ("nd decimalnumber digit", ["Nd"]),
  ("nl letternumber", ["Nl"]), ("no othernumber", ["No"]),
  ("p punctuation punct", ["Pc", "Pd", "Ps", "Pe", "Pi", "Pf", "Po"]),
  ("pc connectorpunctuation", ["Pc"]), ("pd dashpunctuation", ["Pd"]),
  ("pe closepunctuation", ["Pe"]), ("pf finalpunctuation", ["Pf"]),
  ("pi initialpunctuation", ["Pi"]), ("po otherpunctuation", ["Po"]),
  ("ps openpunctuation", ["Ps"]), ("s symbol", ["Sm", "Sc", "Sk", "So"]),
  ("sc currencysymbol", ["Sc"]), ("sk modifiersymbol", ["Sk"]), ("sm mathsymbol", ["Sm"]),
  ("so othersymbol", ["So"]), ("z separator", ["Zs", "Zl", "Zp"]), ("zl lineseparator", ["Zl"]),
  ("zp paragraphseparator", ["Zp"]), ("zs spaceseparator", ["Zs"])]

def category? : String → Option CodeSet
  | "any" => some CodeSet.all
  | "assigned" => some assigned
  | "ascii" => some (CodeSet.ofText "0-7f")
  | name =>
    (categoryNames.find? fun (names, _) => (CodeSet.words names).contains name).map fun (_, parts) =>
      let listed := categories parts
      if parts.contains "Cn" then listed.union assigned.complement else listed

def script? (name : String) : Option CodeSet := named scriptTable name

def scriptExtension? (name : String) : Option CodeSet := do
  let (names, own) ← scriptTable.find? fun (names, _) => (CodeSet.words names).contains name
  let listed := CodeSet.ofText own
  match scriptExtensionTable.find? fun (key, _) => (CodeSet.words names).contains key with
  | some (_, added, removed) =>
    return (listed.union (CodeSet.ofText added)).diff (CodeSet.ofText removed)
  | none => return listed

/-- The code points that some version of the standard knew; later versions keep them. -/
def age? (name : String) : Option CodeSet :=
  let isNamed (entry : String × String) : Bool := (CodeSet.words entry.1).contains name
  if ageTable.any isNamed then
    let earlier := ageTable.takeWhile fun entry => !isNamed entry
    let last := (ageTable.find? isNamed).toList
    some (CodeSet.unionAll ((earlier ++ last).map fun (_, text) => CodeSet.ofText text))
  else none

def hangulSyllables : CodeSet := CodeSet.ofText "ac00-d7a3"

def graphemeBreak? : String → Option CodeSet
  | "extend" | "ex" => some (graphemeExtend.union (binary "emojimodifier"))
  | "lvt" => (named graphemeBreakTable "lv").map hangulSyllables.diff
  | name => named graphemeBreakTable name

def wordBreak? : String → Option CodeSet
  | "extend" => some (CodeSet.unionAll [graphemeExtend, binary "emojimodifier", categories ["Mc"]])
  | name => named wordBreakTable name

def sentenceBreak? : String → Option CodeSet
  | "extend" | "ex" =>
    some (CodeSet.unionAll [graphemeExtend, categories ["Mc"], CodeSet.single 0x200D])
  | name => named sentenceBreakTable name

/-- A name without what does not count in it. The name `isc` is the only one that would lose its
`is` to no purpose, and keeps it. -/
def plainName (name : List Char) : String :=
  let (marked, rest) := match name with
    | i :: s :: rest => if i.toLower = 'i' ∧ s.toLower = 's' then (true, rest) else (false, name)
    | _ => (false, name)
  let kept := (rest.filter fun c =>
    c.toNat < 0x80 && c != ' ' && c != '_' && c != '-').map Char.toLower
  if marked && kept == ['c'] then "isc" else String.ofList kept

/-- What a name alone stands for: a property, a general category or a script. The names `cf`, `sc`
and `lc` are those of categories, though properties have them too. -/
def byName? (name : List Char) : Option CodeSet :=
  let name := plainName name
  let property := if ["cf", "sc", "lc"].contains name then none else yesOrNo? name
  match property with
  | some set => some set
  | none =>
    match category? name with
    | some set => some set
    | none => script? name

def byValue? (property value : List Char) : Option CodeSet :=
  let value := plainName value
  match plainName property with
  | "gc" | "generalcategory" => category? value
  | "sc" | "script" => script? value
  | "scx" | "scriptextensions" => scriptExtension? value
  | "age" => age? value
  | "gcb" | "graphemeclusterbreak" => graphemeBreak? value
  | "wb" | "wordbreak" => wordBreak? value
  | "sb" | "sentencebreak" => sentenceBreak? value
  | _ => none

end TicketRouting.Unicode
