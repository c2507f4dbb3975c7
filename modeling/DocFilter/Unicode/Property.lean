import DocFilter.Unicode.Age
import DocFilter.Unicode.Segmentation

/-!
# Properties by name

The characters that a property of the Unicode standard holds of, looked up by the names of the
property and of its value.  Names are compared without regard to case, spaces, hyphens, underscores
and a leading `is`.
-/

namespace DocFilter
namespace Unicode

/-- The letters of a name that count, in lower case. -/
def significantLetters (name : List Char) : List Char :=
  (name.filter fun c => c.toNat < 0x80 && !(['_', '-', ' '].contains c)).map Char.toLower

/-- A name as it is looked up.  The `is` of `isc`, which is a name of its own, stays. -/
def normalizeName (name : List Char) : String :=
  match name with
  | i :: s :: rest =>
    if i.toLower = 'i' ∧ s.toLower = 's' then
      let letters := significantLetters rest
      if letters = ['c'] then "isc" else String.ofList letters
    else String.ofList (significantLetters name)
  | _ => String.ofList (significantLetters name)

/-! ### Looking names up -/

/-- The properties that a character has or has not, each by its names. -/
def binaryProperties : List (List String × CharClass) :=
  [(["alphabetic", "alpha"], alphabetic),
   (["caseignorable", "ci"], caseIgnorable),
   (["cased"], cased),
   (["changeswhencasefolded", "cwcf"], changesWhenCasefolded),
   (["changeswhencasemapped", "cwcm"], changesWhenCasemapped),
   (["changeswhenlowercased", "cwl"], changesWhenLowercased),
   (["changeswhentitlecased", "cwt"], changesWhenTitlecased),
   (["changeswhenuppercased", "cwu"], changesWhenUppercased),
   (["graphemebase", "grbase"], graphemeBase),
   (["graphemeextend", "grext"], graphemeExtend),
   (["idcontinue", "idc"], idContinue),
   (["idstart", "ids"], idStart),
   (["lowercase", "lower"], lowercase),
   (["math"], anyOfTables [mathSymbol, otherMath]),
   (["otheralphabetic", "oalpha"], .table otherAlphabetic),
   (["otherdefaultignorablecodepoint", "odi"], .table otherDefaultIgnorable),
   (["othergraphemeextend", "ogrext"], .table otherGraphemeExtend),
   (["otheridcontinue", "oidc"], .table otherIdContinue),
   (["otheridstart", "oids"], .table otherIdStart),
   (["otherlowercase", "olower"], .table otherLowercase),
   (["othermath", "omath"], .table otherMath),
   (["otheruppercase", "oupper"], .table otherUppercase),
   (["uppercase", "upper"], uppercase),
   (["xidcontinue", "xidc"], xidContinue),
   (["xidstart", "xids"], xidStart),
   (["asciihexdigit", "ahex"], .table asciiHexDigit),
   (["bidicontrol", "bidic"], .table bidiControl),
   (["bidimirrored", "bidim"], .table bidiMirrored),
   (["dash"], .table dash),
   (["defaultignorablecodepoint", "di"], defaultIgnorable),
   (["deprecated", "dep"], .table deprecated),
   (["diacritic", "dia"], .table diacritic),
   (["emoji"], .table emoji),
   (["emojicomponent", "ecomp"], .table emojiComponent),
   (["emojimodifier", "emod"], .table emojiModifier),
   (["emojimodifierbase", "ebase"], .table emojiModifierBase),
   (["emojipresentation", "epres"], .table emojiPresentation),
   (["extendedpictographic", "extpict"], .table extendedPictographic),
   (["extender", "ext"], .table extender),
   (["graphemelink", "grlink"], .table graphemeLink),
   (["hexdigit", "hex"], .table hexDigit),
   (["hyphen"], .table hyphen),
   (["idsbinaryoperator", "idsb"], .table idsBinaryOperator),
   (["idstrinaryoperator", "idst"], .table idsTrinaryOperator),
   (["idsunaryoperator", "idsu"], .table idsUnaryOperator),
   (["idcompatmathstart"], .table idCompatMathStart),
   (["idcompatmathcontinue"], mathContinue),
   (["ideographic", "ideo"], .table ideographic),
   (["joincontrol", "joinc"], .table joinControl),
   (["logicalorderexception", "loe"], .table logicalOrderException),
   (["modifiercombiningmark", "mcm"], .table modifierCombiningMark),
   (["noncharactercodepoint", "nchar"], .table noncharacterCodePoint),
   (["patternsyntax", "patsyn"], .table patternSyntax),
   (["patternwhitespace", "patws"], .table patternWhiteSpace),
   (["prependedconcatenationmark", "pcm"], .table prependedConcatenationMark),
   (["quotationmark", "qmark"], .table quotationMark),
   (["radical"], .table radical),
   (["regionalindicator", "ri"], .table regionalIndicator),
   (["sentenceterminal", "sterm"], .table sentenceTerminal),
   (["softdotted", "sd"], .table softDotted),
   (["terminalpunctuation", "term"], .table terminalPunctuation),
   (["unifiedideograph", "uideo"], .table unifiedIdeograph),
   (["variationselector", "vs"], .table variationSelector),
   (["whitespace", "wspace", "space"], .table whiteSpace)]

/-- The value of the first entry that goes by a name. -/
def lookUp? {α : Type} (entries : List (List String × α)) (name : String) : Option α :=
  (entries.find? (·.1.contains name)).map (·.2)

/-- Groups of general categories, each by its names. -/
def categoryGroups : List (List String × CharClass) :=
  [(["any"], .all),
   (["ascii"], .ascii),
   (["assigned"], assigned),
   (["cn", "unassigned"], .compl assigned),
   (["c", "other"], .union (anyOfTables [control, format, privateUse]) (.compl assigned)),
   (["lc", "casedletter"], anyOfTables [uppercaseLetter, lowercaseLetter, titlecaseLetter]),
   (["l", "letter"], letter),
   (["m", "mark", "combiningmark"], mark),
   (["n", "number"], number),
   (["p", "punctuation", "punct"], anyOfTables [connectorPunctuation, dashPunctuation,
      closePunctuation, finalPunctuation, initialPunctuation, otherPunctuation, openPunctuation]),
   (["s", "symbol"], anyOfTables [currencySymbol, modifierSymbol, mathSymbol, otherSymbol]),
   (["z", "separator"], anyOfTables [lineSeparator, paragraphSeparator, spaceSeparator])]

/-- The characters of a general category or of a group of them. -/
def category? (name : String) : Option CharClass :=
  match generalCategories.find? (·.names.contains name) with
  | some category => some (.table category.table)
  | none => lookUp? categoryGroups name

/-- The characters of a script. -/
def script? (name : String) : Option CharClass :=
  (scripts.find? (·.names.contains name)).map fun script => .table script.table

/-- The characters of a script and its extensions. -/
def scriptExtensions? (name : String) : Option CharClass :=
  (scripts.find? (·.names.contains name)).map fun script =>
    .diff (.union (.table script.table) (.table script.added)) (.table script.removed)

/-- The characters of a version of the standard and of all before it. -/
def age? (name : String) : Option CharClass :=
  (agesUpTo? name).map fun ages => anyOfTables (ages.map (·.added))

/-- The characters of a name that stands alone: a binary property, except where its name is better
known as that of a general category, or a general category, or a script. -/
def named? (name : String) : Option CharClass :=
  let binary := if ["cf", "sc", "lc"].contains name then none else lookUp? binaryProperties name
  binary <|> category? name <|> script? name

/-- The characters for which a property has a value. -/
def valued? (property value : String) : Option CharClass :=
  match property with
  | "gc" | "generalcategory" => category? value
  | "sc" | "script" => script? value
  | "scx" | "scriptextensions" => scriptExtensions? value
  | "age" => age? value
  | "gcb" | "graphemeclusterbreak" => lookUp? graphemeClusterBreaks value
  | "wb" | "wordbreak" => lookUp? wordBreaks value
  | "sb" | "sentencebreak" => lookUp? sentenceBreaks value
  | _ => none

end Unicode
end DocFilter
