import RouteTable.Pattern.CharClass
import RouteTable.Text.Casing
import RouteTable.Text.Diacritic
import RouteTable.Text.Emoji
import RouteTable.Text.Identifier
import RouteTable.Text.Ideograph
import RouteTable.Text.Reserved
import RouteTable.Text.Sign
/-!
# Properties

What a character has or has not, under the names by which a pattern asks for it.
Names are in small letters and without separators.
-/

namespace RouteTable.Pattern

open RouteTable.Text

namespace CharSet

def capital : CharSet := ofTables (titlecaseLetters :: uppercase)

def graphemeExtend : CharSet := ofTables [nonspacingMarks, enclosingMarks, otherGraphemeExtend]

def graphemeBase : CharSet :=
  diff (ofTables (letters ++ marks ++ numbers ++ punctuation ++ symbols ++ [spaceSeparators]))
    graphemeExtend

def ignorable : CharSet :=
  union (ofTables [otherIgnorable, variationSelectors])
    (diff (table formats) (ofTables [shownFormats, prependedMarks]))

def patternCharacters : CharSet := ofTables [patternSyntax, patternWhiteSpace]

def idStart : CharSet :=
  diff (ofTables (letters ++ [letterNumbers, otherIdStart])) patternCharacters

def idContinue : CharSet :=
  union idStart
    (diff (ofTables [nonspacingMarks, spacingMarks, decimalNumbers, connectorPunctuation,
      otherIdContinue]) patternCharacters)

end CharSet

/-- A property that a character has or has not. -/
structure Property where
  names : List String
  characters : CharSet
  deriving DecidableEq, Repr

namespace Property

open CharSet

def casing : List Property := [
  ⟨["alpha", "alphabetic"], ofTables alphabetic⟩,
  ⟨["oalpha", "otheralphabetic"], table otherAlphabetic⟩,
  ⟨["lower", "lowercase"], ofTables lowercase⟩,
  ⟨["olower", "otherlowercase"], table otherLowercase⟩,
  ⟨["upper", "uppercase"], ofTables uppercase⟩,
  ⟨["oupper", "otheruppercase"], table otherUppercase⟩,
  ⟨["cased"], union capital (ofTables lowercase)⟩,
  ⟨["ci", "caseignorable"],
    ofTables [nonspacingMarks, enclosingMarks, formats, modifierLetters, modifierSymbols,
      otherCaseIgnorable]⟩,
  ⟨["cwcm", "changeswhencasemapped"], table caseChanging⟩,
  ⟨["cwl", "changeswhenlowercased"], inter (table caseChanging) capital⟩,
  ⟨["cwu", "changeswhenuppercased"],
    inter (table caseChanging) (ofTables (titlecaseLetters :: lowercase))⟩,
  ⟨["cwt", "changeswhentitlecased"],
    union (table capitalDigraphs)
      (diff (inter (table caseChanging) (ofTables lowercase)) (table untitledLetters))⟩,
  ⟨["cwcf", "changeswhencasefolded"],
    union (table furtherFolded)
      (diff (inter (table caseChanging) capital) (table foldedCapitals))⟩,
  ⟨["sd", "softdotted"], table softDotted⟩]

def identifiers : List Property := [
  ⟨["ids", "idstart"], idStart⟩,
  ⟨["oids", "otheridstart"], table otherIdStart⟩,
  ⟨["xids", "xidstart"], diff idStart (table unstableStart)⟩,
  ⟨["idc", "idcontinue"], idContinue⟩,
  ⟨["oidc", "otheridcontinue"], table otherIdContinue⟩,
  ⟨["xidc", "xidcontinue"], diff idContinue (table unstableContinue)⟩,
  ⟨["idcompatmathstart"], table mathStart⟩,
  ⟨["idcompatmathcontinue"], ofTables [mathStart, mathContinue]⟩,
  ⟨["patsyn", "patternsyntax"], table patternSyntax⟩,
  ⟨["patws", "patternwhitespace"], table patternWhiteSpace⟩]

def dependents : List Property := [
  ⟨["grbase", "graphemebase"], graphemeBase⟩,
  ⟨["grext", "graphemeextend"], graphemeExtend⟩,
  ⟨["ogrext", "othergraphemeextend"], table otherGraphemeExtend⟩,
  ⟨["grlink", "graphemelink"], table viramas⟩,
  ⟨["dia", "diacritic"], table diacritics⟩,
  ⟨["ext", "extender"], table extenders⟩,
  ⟨["loe", "logicalorderexception"], table logicalOrderExceptions⟩,
  ⟨["mcm", "modifiercombiningmark"], table modifierMarks⟩,
  ⟨["pcm", "prependedconcatenationmark"], table prependedMarks⟩,
  ⟨["vs", "variationselector"], table variationSelectors⟩]

def signs : List Property := [
  ⟨["dash"], ofTables [dashPunctuation, otherDashes]⟩,
  ⟨["hyphen"], table hyphens⟩,
  ⟨["qmark", "quotationmark"], table quotationMarks⟩,
  ⟨["sterm", "sentenceterminal"], table sentenceTerminals⟩,
  ⟨["term", "terminalpunctuation"], ofTables [sentenceTerminals, clauseTerminals]⟩,
  ⟨["math"], ofTables [mathSymbols, otherMath]⟩,
  ⟨["omath", "othermath"], table otherMath⟩,
  ⟨["hex", "hexdigit"], table hexDigits⟩,
  ⟨["ahex", "asciihexdigit"], inter ascii (table hexDigits)⟩,
  ⟨["ri", "regionalindicator"], table regionalIndicators⟩,
  ⟨["space", "wspace", "whitespace"], table whiteSpace⟩]

def pictures : List Property := [
  ⟨["emoji"], table emoji⟩,
  ⟨["ecomp", "emojicomponent"], table emojiComponents⟩,
  ⟨["ebase", "emojimodifierbase"], table emojiModifierBases⟩,
  ⟨["emod", "emojimodifier"], table emojiModifiers⟩,
  ⟨["epres", "emojipresentation"], table emojiPresentation⟩,
  ⟨["extpict", "extendedpictographic"], table pictographs⟩,
  ⟨["ideo", "ideographic"], ofTables [unifiedIdeographs, otherIdeographs]⟩,
  ⟨["uideo", "unifiedideograph"], table unifiedIdeographs⟩,
  ⟨["radical"], table radicals⟩,
  ⟨["idsu", "idsunaryoperator"], table unaryDescriptions⟩,
  ⟨["idsb", "idsbinaryoperator"], table binaryDescriptions⟩,
  ⟨["idst", "idstrinaryoperator"], table ternaryDescriptions⟩]

def reserved : List Property := [
  ⟨["bidic", "bidicontrol"], table bidiControls⟩,
  ⟨["joinc", "joincontrol"], table joinControls⟩,
  ⟨["dep", "deprecated"], table deprecatedCharacters⟩,
  ⟨["di", "defaultignorablecodepoint"], ignorable⟩,
  ⟨["odi", "otherdefaultignorablecodepoint"], table otherIgnorable⟩,
  ⟨["nchar", "noncharactercodepoint"], table noncharacters⟩]

def all : List Property :=
  casing ++ identifiers ++ dependents ++ signs ++ pictures ++ reserved

end Property

end RouteTable.Pattern
