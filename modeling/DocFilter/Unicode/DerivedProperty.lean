import DocFilter.Unicode.CharClass
import DocFilter.Unicode.GeneralCategory
import DocFilter.Unicode.PropertyTable

/-!
# Derived properties

Properties of characters that follow from general categories and from single properties.
-/

namespace DocFilter
namespace Unicode

/-- The union of tables. -/
def anyOfTables (tables : List RangeTable) : CharClass := .unions (tables.map .table)

def letter : CharClass :=
  anyOfTables [uppercaseLetter, lowercaseLetter, titlecaseLetter, modifierLetter, otherLetter]

def mark : CharClass := anyOfTables [nonspacingMark, spacingMark, enclosingMark]

def number : CharClass := anyOfTables [decimalNumber, letterNumber, otherNumber]

def lowercase : CharClass := anyOfTables [lowercaseLetter, otherLowercase]

def uppercase : CharClass := anyOfTables [uppercaseLetter, otherUppercase]

def cased : CharClass := .union (.union lowercase uppercase) (.table titlecaseLetter)

def alphabetic : CharClass :=
  .unions [letter, .table letterNumber, lowercase, uppercase, .table otherAlphabetic]

def assigned : CharClass :=
  .union (.unions (generalCategories.map fun category => .table category.table))
    (.table [(0xD800, 0xDFFF)])

def graphemeExtend : CharClass := anyOfTables [enclosingMark, nonspacingMark, otherGraphemeExtend]

def graphemeBase : CharClass :=
  .diff assigned (.union graphemeExtend
    (.union (anyOfTables [control, format, privateUse, lineSeparator, paragraphSeparator])
      (.table [(0xD800, 0xDFFF)])))

def idStart : CharClass :=
  .diff (.unions [letter, .table letterNumber, .table otherIdStart])
    (anyOfTables [patternSyntax, patternWhiteSpace])

def idContinue : CharClass :=
  .union idStart (anyOfTables
    [nonspacingMark, spacingMark, decimalNumber, connectorPunctuation, otherIdContinue])

def xidStart : CharClass := .diff idStart (.table notXidStart)

def xidContinue : CharClass := .diff idContinue (.table notXidContinue)

def caseIgnorable : CharClass :=
  anyOfTables [nonspacingMark, enclosingMark, format, modifierLetter, modifierSymbol,
    otherCaseIgnorable]

def defaultIgnorable : CharClass :=
  .diff (anyOfTables [otherDefaultIgnorable, format, variationSelector])
    (.union (anyOfTables [whiteSpace, prependedConcatenationMark])
      (.table [(0xFFF9, 0xFFFB), (0x13430, 0x1343F)]))

def mathContinue : CharClass :=
  .union (.table idCompatMathStart)
    (.table [(0xB2, 0xB3), (0xB9, 0xB9), (0x2070, 0x2070), (0x2074, 0x207E), (0x2080, 0x208E)])

def changesWhenLowercased : CharClass :=
  .diff (anyOfTables [uppercaseLetter, titlecaseLetter, otherLowercased]) (.table neverLowercased)

def changesWhenTitlecased : CharClass :=
  .diff (anyOfTables [lowercaseLetter, otherTitlecased]) (.table neverTitlecased)

def changesWhenUppercased : CharClass :=
  .diff (.union changesWhenTitlecased (.table otherUppercased)) (.table neverUppercased)

def changesWhenCasefolded : CharClass :=
  .diff (.union changesWhenLowercased (.table otherCasefolded)) (.table neverCasefolded)

def changesWhenCasemapped : CharClass :=
  .unions [changesWhenLowercased, changesWhenTitlecased, changesWhenUppercased]

/-- What a word is made of: letters and marks, decimal digits, connectors and joiners. -/
def wordCharacter : CharClass :=
  .unions [alphabetic, mark, anyOfTables [decimalNumber, connectorPunctuation, joinControl]]

/-- A letter, or a number of any kind. -/
def alphanumeric : CharClass := .union alphabetic number

end Unicode
end DocFilter
