import WideRow.Unicode.Category
import WideRow.Unicode.Fold
import WideRow.Unicode.Property

namespace WideRow.Unicode

open CodeSet (range unions)

def lowercase : CodeSet := lowercaseLetter.union otherLowercase

def uppercase : CodeSet := uppercaseLetter.union otherUppercase

def cased : CodeSet := unions [lowercase, uppercase, titlecaseLetter]

def alphabetic : CodeSet :=
  unions [cased, modifierLetter, otherLetter, letterNumber, otherAlphabetic]

def math : CodeSet := mathSymbol.union otherMath

def pattern : CodeSet := patternSyntax.union patternWhiteSpace

def idStart : CodeSet := (unions [letter, letterNumber, otherIdStart]).diff pattern

def idContinue : CodeSet :=
  (unions [idStart, nonspacingMark, spacingMark, decimalNumber, connectorPunctuation,
    otherIdContinue]).diff pattern

/-- Characters that compatibility decomposition takes out of identifiers. -/
def unstable : CodeSet := ⟨[
  (890, 890), (12443, 12444), (64606, 64611), (65018, 65019), (65136, 65136), (65138, 65138),
  (65140, 65140), (65142, 65142), (65144, 65144), (65146, 65146), (65148, 65148), (65150, 65150)]⟩

def unstableStart : CodeSet := ⟨[(3635, 3635), (3763, 3763), (65438, 65439)]⟩

def xidStart : CodeSet := (idStart.diff unstable).diff unstableStart

def xidContinue : CodeSet := idContinue.diff unstable

def graphemeExtend : CodeSet := unions [enclosingMark, nonspacingMark, otherGraphemeExtend]

def graphemeBase : CodeSet :=
  graphic.diff (unions [lineSeparator, paragraphSeparator, graphemeExtend])

def annotationMark : CodeSet := range 0xFFF9 0xFFFB

def hieroglyphControl : CodeSet := range 0x13430 0x1343F

def defaultIgnorable : CodeSet :=
  (unions [otherDefaultIgnorable, format, variationSelector]).diff
    (unions [whiteSpace, annotationMark, hieroglyphControl, prependedConcatenationMark])

def word : CodeSet := unions [alphabetic, mark, decimalNumber, connectorPunctuation, joinControl]

/-- Characters that fold to several, and the dotted capital I. -/
def foldsApart : CodeSet := ⟨[
  (223, 223), (304, 304), (329, 329), (1415, 1415), (7834, 7834), (8064, 8071), (8080, 8087),
  (8096, 8103), (8114, 8116), (8119, 8119), (8130, 8132), (8135, 8135), (8178, 8180),
  (8183, 8183), (64256, 64260), (64262, 64262), (64275, 64279)]⟩

def foldsInPlace : CodeSet := ⟨[(8126, 8126), (8147, 8147), (8163, 8163)]⟩

def changesWhenCasefolded : CodeSet := (folding.union foldsApart).diff foldsInPlace

def foldingTarget : CodeSet := range 5024 5109

def changesWhenLowercased : CodeSet :=
  (unions [folding, range 304 304, foldingTarget]).diff lowercase

def capitalsApart : CodeSet := ⟨[
  (305, 305), (329, 329), (496, 496), (1415, 1415), (7830, 7834), (8016, 8016), (8018, 8018),
  (8020, 8020), (8022, 8022), (8114, 8114), (8116, 8116), (8118, 8119), (8130, 8130),
  (8132, 8132), (8134, 8135), (8146, 8146), (8150, 8151), (8162, 8162), (8164, 8164),
  (8166, 8167), (8178, 8178), (8180, 8180), (8182, 8183), (64256, 64260), (64275, 64279)]⟩

def changesWhenUppercased : CodeSet :=
  (caseVaried.inter (lowercase.union titlecaseLetter)).union capitalsApart

def mkhedruli : CodeSet := ⟨[(4304, 4346), (4349, 4351)]⟩

def mtavruli : CodeSet := ⟨[(7312, 7354), (7357, 7359)]⟩

def capitalDigraph : CodeSet := ⟨[(452, 452), (455, 455), (458, 458), (497, 497)]⟩

def changesWhenTitlecased : CodeSet :=
  (changesWhenUppercased.diff (titlecaseLetter.union mkhedruli)).union capitalDigraph

def changesWhenCasemapped : CodeSet :=
  unions [changesWhenLowercased, changesWhenUppercased, changesWhenTitlecased]

end WideRow.Unicode
