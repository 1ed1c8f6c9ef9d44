import WideRow.Unicode.Derived
import WideRow.Unicode.Script

namespace WideRow.Unicode

open CodeSet (single range ofRanges unions)

def membersOf (script : String) : CodeSet := ((script? script).map (·.members)).getD .empty

def zeroWidthSpace : Nat := 0x200B

def zeroWidthNonJoiner : Nat := 0x200C

def zeroWidthJoiner : Nat := 0x200D

def firstSyllable : Nat := 0xAC00

def lastSyllable : Nat := 0xD7A3

/-- Hangul syllables come in blocks of 28, each of which begins with one that has no final. -/
def openSyllable : CodeSet :=
  unions ((List.range 399).map fun i => single (firstSyllable + 28 * i))

def closedSyllable : CodeSet := (range firstSyllable lastSyllable).diff openSyllable

def graphemeControl : CodeSet :=
  (unions
    [lineSeparator, paragraphSeparator, control, unassigned.inter defaultIgnorable, format]).diff
    (unions [single 10, single 13, prependedConcatenationMark, graphemeExtend,
      single zeroWidthJoiner])

def prepended : CodeSet :=
  prependedConcatenationMark.union ⟨[
    (3406, 3406), (70082, 70083), (70609, 70609), (71999, 71999), (72001, 72001), (72250, 72250),
    (72324, 72329), (73030, 73030), (73474, 73474)]⟩

def detachedMark : CodeSet := ⟨[
  (4139, 4140), (4152, 4152), (4194, 4196), (4199, 4205), (4227, 4227), (4231, 4236),
  (4239, 4239), (4250, 4252), (6753, 6753), (6755, 6756), (43643, 43643), (43645, 43645),
  (71456, 71457)]⟩

def graphemeSpacing : CodeSet :=
  (unions [spacingMark, single 3635, single 3763]).diff (unions [graphemeExtend, detachedMark])

def graphemeKinds : List (List String × CodeSet) := [
  (["cr"], single 13), (["lf"], single 10), (["control", "cn"], graphemeControl),
  (["extend", "ex"], graphemeExtend.union emojiModifier),
  (["zwj"], single zeroWidthJoiner),
  (["regionalindicator", "ri"], regionalIndicator), (["prepend", "pp"], prepended),
  (["spacingmark", "sm"], graphemeSpacing),
  (["l"], ofRanges [(4352, 4447), (43360, 43388)]),
  (["v"], ofRanges [(4448, 4519), (55216, 55238), (93539, 93539), (93543, 93546)]),
  (["t"], ofRanges [(4520, 4607), (55243, 55291)]), (["lv"], openSyllable),
  (["lvt"], closedSyllable)]

def unspacedLetter : CodeSet := ⟨[
  (3585, 3632), (3634, 3635), (3648, 3654), (3713, 3714), (3716, 3716), (3718, 3722),
  (3724, 3747), (3749, 3749), (3751, 3760), (3762, 3763), (3773, 3773), (3776, 3780),
  (3782, 3782), (3804, 3807), (4096, 4138), (4159, 4159), (4176, 4181), (4186, 4189),
  (4193, 4193), (4197, 4198), (4206, 4208), (4213, 4225), (4238, 4238), (6016, 6067),
  (6103, 6103), (6108, 6108), (6480, 6509), (6512, 6516), (6528, 6571), (6576, 6601),
  (6688, 6740), (6823, 6823), (43488, 43492), (43494, 43503), (43514, 43518), (43616, 43638),
  (43642, 43642), (43646, 43695), (43697, 43697), (43701, 43702), (43705, 43709), (43712, 43712),
  (43714, 43714), (43739, 43741), (71424, 71450), (71488, 71494)]⟩

def letterLike : CodeSet := ⟨[
  (706, 709), (722, 727), (734, 735), (741, 747), (749, 749), (751, 767), (1370, 1372),
  (1374, 1374), (1418, 1418), (1523, 1523), (1807, 1807), (42760, 42774), (42784, 42785),
  (42889, 42890), (43867, 43867)]⟩

def katakana : CodeSet :=
  (membersOf "katakana").union
    ⟨[(12337, 12341), (12443, 12444), (12448, 12448), (12540, 12540), (65392, 65392)]⟩

def hebrewLetter : CodeSet := (membersOf "hebrew").inter otherLetter

def extending : CodeSet := unions [graphemeExtend, spacingMark, single zeroWidthJoiner]

def wordExtend : CodeSet :=
  (unions [extending, emojiModifier]).diff (single zeroWidthJoiner)

def wordLetter : CodeSet :=
  (alphabetic.diff (unions [ideographic, katakana, membersOf "hiragana", wordExtend, hebrewLetter,
    unspacedLetter])).union letterLike

def numberSign : CodeSet := prependedConcatenationMark.diff (single 1807)

def digitLike : CodeSet := unions [decimalNumber, numberSign, single 1643, single 6618]

def middleLetter : CodeSet := ⟨[
  (58, 58), (183, 183), (903, 903), (1375, 1375), (1524, 1524), (8231, 8231), (65043, 65043),
  (65109, 65109), (65306, 65306)]⟩

def middleNumber : CodeSet := ⟨[
  (44, 44), (59, 59), (894, 894), (1417, 1417), (1548, 1549), (1644, 1644), (2040, 2040),
  (8260, 8260), (65104, 65104), (65108, 65108), (65292, 65292), (65307, 65307)]⟩

def middleEither : CodeSet := ⟨[
  (46, 46), (8216, 8217), (8228, 8228), (65106, 65106), (65287, 65287), (65294, 65294)]⟩

def singleQuote : CodeSet := single 39

def wordFormat : CodeSet :=
  format.diff (unions [range zeroWidthSpace zeroWidthJoiner, extending, prependedConcatenationMark])

def wordSpace : CodeSet := ⟨[
  (32, 32), (5760, 5760), (8192, 8198), (8200, 8202), (8287, 8287), (12288, 12288)]⟩

def wordKinds : List (List String × CodeSet) := [
  (["cr"], single 13), (["lf"], single 10),
  (["newline", "nl"], ofRanges [(11, 12), (133, 133), (8232, 8233)]), (["extend"], wordExtend),
  (["zwj"], single zeroWidthJoiner), (["format", "fo"], wordFormat),
  (["katakana", "ka"], katakana), (["hebrewletter", "hl"], hebrewLetter),
  (["aletter", "le"], wordLetter), (["singlequote", "sq"], singleQuote),
  (["doublequote", "dq"], single 34), (["midnumlet", "mb"], middleEither),
  (["midletter", "ml"], middleLetter), (["midnum", "mn"], middleNumber),
  (["numeric", "nu"], digitLike),
  (["extendnumlet", "ex"], connectorPunctuation.union (single 8239)),
  (["regionalindicator", "ri"], regionalIndicator), (["wsegspace"], wordSpace)]

def sentenceStop : CodeSet := ⟨[(46, 46), (8228, 8228), (65106, 65106), (65294, 65294)]⟩

def sentenceSeparator : CodeSet := ⟨[(133, 133), (8232, 8233)]⟩

def sentenceContinue : CodeSet := ⟨[
  (44, 45), (58, 59), (894, 894), (1373, 1373), (1548, 1549), (2040, 2040), (6146, 6146),
  (6152, 6152), (8211, 8212), (12289, 12289), (65040, 65041), (65043, 65044), (65073, 65074),
  (65104, 65105), (65108, 65109), (65112, 65112), (65123, 65123), (65292, 65293), (65306, 65307),
  (65380, 65380)]⟩

def sentenceClose : CodeSet :=
  (unions [openPunctuation, closePunctuation, initialPunctuation, finalPunctuation, quotationMark,
    ⟨[(10075, 10080), (11776, 11777), (11782, 11784), (11787, 11787), (128630, 128632)]⟩]).diff
    (unions [single 65282, single 65287])

def sentenceFormat : CodeSet :=
  format.diff (unions [extending, single zeroWidthNonJoiner, numberSign])

def sentenceLower : CodeSet := lowercase.diff (graphemeExtend.union mkhedruli)

def sentenceUpper : CodeSet := (uppercase.union titlecaseLetter).diff mtavruli

def sentenceLetter : CodeSet :=
  (alphabetic.union (single 1523)).diff (unions [sentenceLower, sentenceUpper, extending])

def sentenceKinds : List (List String × CodeSet) := [
  (["cr"], single 13), (["lf"], single 10), (["extend", "ex"], extending),
  (["sep", "se"], sentenceSeparator), (["format", "fo"], sentenceFormat),
  (["sp"], whiteSpace.diff (unions [single 10, single 13, sentenceSeparator])),
  (["lower", "lo"], sentenceLower), (["upper", "up"], sentenceUpper),
  (["oletter", "le"], sentenceLetter), (["numeric", "nu"], digitLike.union (single 1644)),
  (["aterm", "at"], sentenceStop), (["scontinue", "sc"], sentenceContinue),
  (["sterm", "st"], sentenceTerminal.diff sentenceStop), (["close", "cl"], sentenceClose)]

end WideRow.Unicode
