import JsonQuery.Unicode.PointSet
import JsonQuery.Unicode.Property
import JsonQuery.Unicode.Script

/-! # Derived properties and the names of properties

Names are compared loosely: case, blanks, hyphens and underscores do not count, nor does a leading
`is`. A name alone is looked up among the binary properties, then the general categories, then the
scripts; a name with a value says which of them is meant.
-/

namespace JsonQuery.Unicode

def listedSet (name : String) : PointSet := .ranges (listed name)

def categorySet (names : List String) : PointSet := .ranges (categoriesOf names)

def letters : PointSet := categorySet ["lu", "ll", "lt", "lm", "lo"]

/-- Lower-case letters and what counts as such. -/
def lowercase : PointSet := .union (categorySet ["ll"]) (listedSet "otherlowercase")

/-- Upper-case letters and what counts as such. -/
def uppercase : PointSet := .union (categorySet ["lu"]) (listedSet "otheruppercase")

/-- Letters, letter numbers and what counts as such. -/
def alphabetic : PointSet :=
  .unions [letters, categorySet ["nl"], listedSet "otheralphabetic"]

/-- Characters with a case. -/
def cased : PointSet := .unions [lowercase, uppercase, categorySet ["lt"]]

/-- Characters that casing passes over. -/
def caseIgnorable : PointSet :=
  .union (categorySet ["mn", "me", "cf", "lm", "sk"]) (.ranges innerPunctuation)

/-- Characters that pattern languages reserve. -/
def patternReserved : PointSet :=
  .union (listedSet "patternsyntax") (listedSet "patternwhitespace")

/-- Characters that begin an identifier. -/
def identifierStart : PointSet :=
  .diff (.unions [letters, categorySet ["nl"], listedSet "otheridstart"]) patternReserved

/-- Characters inside an identifier. -/
def identifierContinue : PointSet :=
  .diff
    (.unions [identifierStart, categorySet ["mn", "mc", "nd", "pc"],
      listedSet "otheridcontinue"])
    patternReserved

/-- Marks that join the character before them. -/
def graphemeExtend : PointSet :=
  .union (categorySet ["me", "mn"]) (listedSet "othergraphemeextend")

/-- Characters that stand for themselves. -/
def graphemeBase : PointSet :=
  .compl (.union (categorySet ["cc", "cf", "co", "cn", "zl", "zp"]) graphemeExtend)

/-- Format characters that stay visible. -/
def visibleFormat : PointSet := .ranges [(0xFFF9, 0xFFFB), (0x13430, 0x13440)]

/-- Characters that are not shown where they are not supported. -/
def defaultIgnorable : PointSet :=
  .diff
    (.unions [listedSet "otherdefaultignorablecodepoint", categorySet ["cf"],
      listedSet "variationselector"])
    (.unions [listedSet "whitespace", visibleFormat, listedSet "prependedconcatenationmark"])

/-- Characters that some change of case changes. -/
def changesWhenCasemapped : PointSet :=
  .unions [listedSet "changeswhenlowercased", listedSet "changeswhenuppercased",
    listedSet "changeswhentitlecased"]

structure Derived where
  names : List String
  set : PointSet

def derivedProperties : List Derived := [
  ⟨["alphabetic", "alpha"], alphabetic⟩,
  ⟨["lowercase", "lower"], lowercase⟩,
  ⟨["uppercase", "upper"], uppercase⟩,
  ⟨["cased"], cased⟩,
  ⟨["caseignorable", "ci"], caseIgnorable⟩,
  ⟨["math"], .union (categorySet ["sm"]) (listedSet "othermath")⟩,
  ⟨["idstart", "ids"], identifierStart⟩,
  ⟨["idcontinue", "idc"], identifierContinue⟩,
  ⟨["xidstart", "xids"], .diff identifierStart (.ranges unstableStarts)⟩,
  ⟨["xidcontinue", "xidc"], .diff identifierContinue (.ranges unstableContinues)⟩,
  ⟨["graphemeextend", "grext"], graphemeExtend⟩,
  ⟨["graphemebase", "grbase"], graphemeBase⟩,
  ⟨["defaultignorablecodepoint", "di"], defaultIgnorable⟩,
  ⟨["changeswhencasemapped", "cwcm"], changesWhenCasemapped⟩]

def digits : PointSet := categorySet ["nd"]

def whiteSpace : PointSet := listedSet "whitespace"

/-- The characters of words: letters, marks, digits, connectors and joiners. -/
def wordCharacters : PointSet :=
  .unions [alphabetic, categorySet ["mn", "mc", "me", "nd", "pc"], listedSet "joincontrol"]

def alphanumeric : PointSet := .union alphabetic (categorySet ["nd", "nl", "no"])

/-- The characters of a name that count, in lower case. -/
def looseChars (name : List Char) : List Char :=
  (name.filter fun c => c.toNat < 128 && c != ' ' && c != '_' && c != '-').map Char.toLower

/-- A name in loose spelling, without a leading `is`. The one name that would be confused with the
    category `c` keeps it. -/
def looseName (name : List Char) : String :=
  match name with
  | i :: s :: rest =>
      if (i = 'i' ∨ i = 'I') ∧ (s = 's' ∨ s = 'S') then
        let loose := looseChars rest
        String.ofList (if loose = ['c'] then ['i', 's', 'c'] else loose)
      else String.ofList (looseChars name)
  | _ => String.ofList (looseChars name)

/-- A binary property by its name in loose spelling. -/
def binaryProperty? (name : String) : Option PointSet :=
  match derivedProperties.find? (·.names.contains name) with
  | some derived => some derived.set
  | none => (Entry.find? listedProperties name).map .ranges

/-- A general category by its name in loose spelling; `any`, `assigned` and `ascii` are among
    them. -/
def categorySet? (name : String) : Option PointSet :=
  if name = "any" then some (.compl .empty)
  else if name = "assigned" then some (.compl (categorySet ["cn"]))
  else if name = "ascii" then some (.ranges [(0, 127)])
  else (category? name).map .ranges

def scriptSet? (name : String) : Option PointSet := (script? name).map .ranges

/-- The extensions of a script by its name in loose spelling. -/
def extendedScriptSet? (name : String) : Option PointSet :=
  match scriptCode? name, scriptSet? name with
  | some code, some set =>
      if code = "zyyy" ∨ code = "zinh" then some (.diff set (.ranges allShared))
      else some (.union set (.ranges (shared code)))
  | _, _ => none

def namedSet? (name : List Char) : Option PointSet :=
  let loose := looseName name
  let binary := if ["cf", "sc", "lc"].contains loose then none else binaryProperty? loose
  binary <|> categorySet? loose <|> scriptSet? loose

def valuedSet? (name value : List Char) : Option PointSet :=
  let value := looseName value
  match looseName name with
  | "gc" | "generalcategory" => categorySet? value
  | "sc" | "script" => scriptSet? value
  | "scx" | "scriptextensions" => extendedScriptSet? value
  | _ => none

end JsonQuery.Unicode
