import RouteTable.Text.Alphabetic
import RouteTable.Text.Category.Letter
import RouteTable.Text.Category.Mark
import RouteTable.Text.Category.Number
import RouteTable.Text.Category.Punctuation
import RouteTable.Text.Category.Separator
import RouteTable.Text.Category.Symbol
/-!
# Categories

The categories of characters under their names, in small letters and without
separators.  A category of one letter joins those whose short names begin with
it.
-/

namespace RouteTable.Text

def inSome (tables : List Ranges) (c : Char) : Bool := tables.any (·.contains c)

def letters : List Ranges :=
  [lowercaseLetters, uppercaseLetters, titlecaseLetters, modifierLetters, otherLetters]

def marks : List Ranges := [nonspacingMarks, spacingMarks, enclosingMarks]

def numbers : List Ranges := [decimalNumbers, letterNumbers, otherNumbers]

def punctuation : List Ranges :=
  [connectorPunctuation, dashPunctuation, openPunctuation, closePunctuation, initialPunctuation,
   finalPunctuation, otherPunctuation]

def symbols : List Ranges := [mathSymbols, currencySymbols, modifierSymbols, otherSymbols]

def separators : List Ranges := [spaceSeparators, lineSeparators, paragraphSeparators]

def assigned : List Ranges :=
  letters ++ marks ++ numbers ++ punctuation ++ symbols ++ separators ++
    [controls, formats, privateUse]

def categories : List (List String × List Ranges) := [
  (["l", "letter"], letters),
  (["lc", "casedletter"], [lowercaseLetters, uppercaseLetters, titlecaseLetters]),
  (["lu", "uppercaseletter"], [uppercaseLetters]),
  (["ll", "lowercaseletter"], [lowercaseLetters]),
  (["lt", "titlecaseletter"], [titlecaseLetters]),
  (["lm", "modifierletter"], [modifierLetters]),
  (["lo", "otherletter"], [otherLetters]),
  (["m", "mark", "combiningmark"], marks),
  (["mn", "nonspacingmark"], [nonspacingMarks]),
  (["mc", "spacingmark"], [spacingMarks]),
  (["me", "enclosingmark"], [enclosingMarks]),
  (["n", "number"], numbers),
  (["nd", "decimalnumber", "digit"], [decimalNumbers]),
  (["nl", "letternumber"], [letterNumbers]),
  (["no", "othernumber"], [otherNumbers]),
  (["p", "punctuation", "punct"], punctuation),
  (["pc", "connectorpunctuation"], [connectorPunctuation]),
  (["pd", "dashpunctuation"], [dashPunctuation]),
  (["ps", "openpunctuation"], [openPunctuation]),
  (["pe", "closepunctuation"], [closePunctuation]),
  (["pi", "initialpunctuation"], [initialPunctuation]),
  (["pf", "finalpunctuation"], [finalPunctuation]),
  (["po", "otherpunctuation"], [otherPunctuation]),
  (["s", "symbol"], symbols),
  (["sm", "mathsymbol"], [mathSymbols]),
  (["sc", "currencysymbol"], [currencySymbols]),
  (["sk", "modifiersymbol"], [modifierSymbols]),
  (["so", "othersymbol"], [otherSymbols]),
  (["z", "separator"], separators),
  (["zs", "spaceseparator"], [spaceSeparators]),
  (["zl", "lineseparator"], [lineSeparators]),
  (["zp", "paragraphseparator"], [paragraphSeparators]),
  (["cc", "control", "cntrl"], [controls]),
  (["cf", "format"], [formats]),
  (["co", "privateuse"], [privateUse]),
  (["assigned"], assigned)]

def alphabetic : List Ranges := letters ++ [letterNumbers, otherAlphabetic]

def lowercase : List Ranges := [lowercaseLetters, otherLowercase]

def uppercase : List Ranges := [uppercaseLetters, otherUppercase]

def isAlphabetic (c : Char) : Bool := inSome alphabetic c

def isNumeric (c : Char) : Bool := inSome numbers c

end RouteTable.Text
