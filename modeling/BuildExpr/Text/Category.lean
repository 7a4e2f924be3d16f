import BuildExpr.Text.CategoryTable
import BuildExpr.Text.WordTable

/-!
# General categories

Every assigned character has one general category. `Category.named?` gives the categories that a
name of the Unicode standard stands for, which may be a group of them.
-/

namespace BuildExpr.Text

/-- The general category of an assigned character. -/
inductive Category
  | uppercaseLetter
  | lowercaseLetter
  | titlecaseLetter
  | modifierLetter
  | otherLetter
  | nonspacingMark
  | spacingMark
  | enclosingMark
  | decimalNumber
  | letterNumber
  | otherNumber
  | connectorPunctuation
  | dashPunctuation
  | openPunctuation
  | closePunctuation
  | initialPunctuation
  | finalPunctuation
  | otherPunctuation
  | mathSymbol
  | currencySymbol
  | modifierSymbol
  | otherSymbol
  | spaceSeparator
  | lineSeparator
  | paragraphSeparator
  | control
  | format
  | privateUse
  deriving DecidableEq

namespace Category

/-- The characters of a category. -/
def ranges : Category → CharRanges
  | uppercaseLetter => uppercaseLetterRanges
  | lowercaseLetter => lowercaseLetterRanges
  | titlecaseLetter => titlecaseLetterRanges
  | modifierLetter => modifierLetterRanges
  | otherLetter => otherLetterRanges
  | nonspacingMark => nonspacingMarkRanges
  | spacingMark => spacingMarkRanges
  | enclosingMark => enclosingMarkRanges
  | decimalNumber => decimalDigitRanges
  | letterNumber => letterNumberRanges
  | otherNumber => otherNumberRanges
  | connectorPunctuation => connectorPunctuationRanges
  | dashPunctuation => dashPunctuationRanges
  | openPunctuation => openPunctuationRanges
  | closePunctuation => closePunctuationRanges
  | initialPunctuation => initialPunctuationRanges
  | finalPunctuation => finalPunctuationRanges
  | otherPunctuation => otherPunctuationRanges
  | mathSymbol => mathSymbolRanges
  | currencySymbol => currencySymbolRanges
  | modifierSymbol => modifierSymbolRanges
  | otherSymbol => otherSymbolRanges
  | spaceSeparator => spaceSeparatorRanges
  | lineSeparator => lineSeparatorRanges
  | paragraphSeparator => paragraphSeparatorRanges
  | control => controlRanges
  | format => formatRanges
  | privateUse => privateUseRanges

/-- Upper-case, lower-case and title-case letters. -/
def casedLetters : List Category := [uppercaseLetter, lowercaseLetter, titlecaseLetter]

/-- Letters of every kind. -/
def letters : List Category := casedLetters ++ [modifierLetter, otherLetter]

/-- Marks of every kind. -/
def marks : List Category := [nonspacingMark, spacingMark, enclosingMark]

/-- Numbers of every kind. -/
def numbers : List Category := [decimalNumber, letterNumber, otherNumber]

/-- Punctuation of every kind. -/
def punctuation : List Category :=
  [connectorPunctuation, dashPunctuation, openPunctuation, closePunctuation, initialPunctuation,
    finalPunctuation, otherPunctuation]

/-- Symbols of every kind. -/
def symbols : List Category := [mathSymbol, currencySymbol, modifierSymbol, otherSymbol]

/-- Separators of every kind. -/
def separators : List Category := [spaceSeparator, lineSeparator, paragraphSeparator]

/-- The categories of characters that are seen or take room. -/
def graphic : List Category := letters ++ marks ++ numbers ++ punctuation ++ symbols ++ separators

/-- All categories. -/
def all : List Category := graphic ++ [control, format, privateUse]

/-- The names of categories and of groups of categories, in lower case and without separators. -/
def names : List (List String × List Category) :=
  [(["lu", "uppercaseletter"], [uppercaseLetter]),
    (["ll", "lowercaseletter"], [lowercaseLetter]),
    (["lt", "titlecaseletter"], [titlecaseLetter]),
    (["lc", "casedletter"], casedLetters),
    (["lm", "modifierletter"], [modifierLetter]),
    (["lo", "otherletter"], [otherLetter]),
    (["l", "letter"], letters),
    (["mn", "nonspacingmark"], [nonspacingMark]),
    (["mc", "spacingmark"], [spacingMark]),
    (["me", "enclosingmark"], [enclosingMark]),
    (["m", "mark", "combiningmark"], marks),
    (["nd", "decimalnumber", "digit"], [decimalNumber]),
    (["nl", "letternumber"], [letterNumber]),
    (["no", "othernumber"], [otherNumber]),
    (["n", "number"], numbers),
    (["pc", "connectorpunctuation"], [connectorPunctuation]),
    (["pd", "dashpunctuation"], [dashPunctuation]),
    (["ps", "openpunctuation"], [openPunctuation]),
    (["pe", "closepunctuation"], [closePunctuation]),
    (["pi", "initialpunctuation"], [initialPunctuation]),
    (["pf", "finalpunctuation"], [finalPunctuation]),
    (["po", "otherpunctuation"], [otherPunctuation]),
    (["p", "punct", "punctuation"], punctuation),
    (["sm", "mathsymbol"], [mathSymbol]),
    (["sc", "currencysymbol"], [currencySymbol]),
    (["sk", "modifiersymbol"], [modifierSymbol]),
    (["so", "othersymbol"], [otherSymbol]),
    (["s", "symbol"], symbols),
    (["zs", "spaceseparator"], [spaceSeparator]),
    (["zl", "lineseparator"], [lineSeparator]),
    (["zp", "paragraphseparator"], [paragraphSeparator]),
    (["z", "separator"], separators),
    (["cc", "control", "cntrl"], [control]),
    (["cf", "format"], [format]),
    (["co", "privateuse"], [privateUse]),
    (["assigned"], all)]

/-- The categories that a name stands for. -/
def named? (name : String) : Option (List Category) :=
  (names.find? fun (aliases, _) => aliases.contains name).map Prod.snd

theorem mem_all (k : Category) : k ∈ all := by cases k <;> decide

end Category

end BuildExpr.Text
