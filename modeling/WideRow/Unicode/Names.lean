import WideRow.Unicode.Age
import WideRow.Unicode.ScriptUse
import WideRow.Unicode.Segment

namespace WideRow.Unicode

open CodeSet (unions)

def dropIs : List Char → Bool × List Char
  | a :: b :: cs =>
    if (a == 'i' || a == 'I') && (b == 's' || b == 'S') then (true, cs) else (false, a :: b :: cs)
  | cs => (false, cs)

/-- The plain form of a name. The name `isc` stays whole, for it does not mean `c`. -/
def plainName (s : String) : String :=
  let (cut, cs) := dropIs s.toList
  let counts (c : Char) : Bool := c.toNat < 0x80 && c != ' ' && c != '_' && c != '-'
  let cs := (cs.filter counts).map Char.toLower
  if cut && cs == ['c'] then "isc" else String.ofList cs

abbrev NameTable := List (List String × CodeSet)

def lookupName (table : NameTable) (name : String) : Option CodeSet :=
  (table.find? fun e => e.1.contains name).map (·.2)

def categoryNames : NameTable := [
  (["lu", "uppercaseletter"], uppercaseLetter), (["ll", "lowercaseletter"], lowercaseLetter),
  (["lt", "titlecaseletter"], titlecaseLetter), (["lm", "modifierletter"], modifierLetter),
  (["lo", "otherletter"], otherLetter), (["l", "letter"], letter),
  (["lc", "casedletter"], casedLetter), (["mn", "nonspacingmark"], nonspacingMark),
  (["mc", "spacingmark"], spacingMark), (["me", "enclosingmark"], enclosingMark),
  (["m", "mark", "combiningmark"], mark), (["nd", "decimalnumber", "digit"], decimalNumber),
  (["nl", "letternumber"], letterNumber), (["no", "othernumber"], otherNumber),
  (["n", "number"], number), (["pc", "connectorpunctuation"], connectorPunctuation),
  (["pd", "dashpunctuation"], dashPunctuation), (["ps", "openpunctuation"], openPunctuation),
  (["pe", "closepunctuation"], closePunctuation),
  (["pi", "initialpunctuation"], initialPunctuation),
  (["pf", "finalpunctuation"], finalPunctuation), (["po", "otherpunctuation"], otherPunctuation),
  (["p", "punctuation", "punct"], punctuation), (["sm", "mathsymbol"], mathSymbol),
  (["sc", "currencysymbol"], currencySymbol), (["sk", "modifiersymbol"], modifierSymbol),
  (["so", "othersymbol"], otherSymbol), (["s", "symbol"], symbol),
  (["zs", "spaceseparator"], spaceSeparator), (["zl", "lineseparator"], lineSeparator),
  (["zp", "paragraphseparator"], paragraphSeparator), (["z", "separator"], separator),
  (["cc", "control", "cntrl"], control), (["cf", "format"], format),
  (["co", "privateuse"], privateUse), (["cn", "unassigned"], unassigned), (["c", "other"], other),
  (["any"], .all), (["ascii"], .range 0 0x7F), (["assigned"], assigned)]

def propertyNames : NameTable := [
  (["ahex", "asciihexdigit"], asciiHexDigit), (["alpha", "alphabetic"], alphabetic),
  (["bidic", "bidicontrol"], bidiControl), (["bidim", "bidimirrored"], bidiMirrored),
  (["ci", "caseignorable"],
    unions [nonspacingMark, enclosingMark, format, modifierLetter, modifierSymbol, middleLetter,
      middleEither, singleQuote]),
  (["cased"], cased), (["cwcf", "changeswhencasefolded"], changesWhenCasefolded),
  (["cwcm", "changeswhencasemapped"], changesWhenCasemapped),
  (["cwl", "changeswhenlowercased"], changesWhenLowercased),
  (["cwt", "changeswhentitlecased"], changesWhenTitlecased),
  (["cwu", "changeswhenuppercased"], changesWhenUppercased), (["dash"], dash),
  (["di", "defaultignorablecodepoint"], defaultIgnorable), (["dep", "deprecated"], deprecated),
  (["dia", "diacritic"], diacritic), (["emoji"], emoji),
  (["ecomp", "emojicomponent"], emojiComponent), (["emod", "emojimodifier"], emojiModifier),
  (["ebase", "emojimodifierbase"], emojiModifierBase),
  (["epres", "emojipresentation"], emojiPresentation),
  (["extpict", "extendedpictographic"], extendedPictographic), (["ext", "extender"], extender),
  (["grbase", "graphemebase"], graphemeBase), (["grext", "graphemeextend"], graphemeExtend),
  (["grlink", "graphemelink"], graphemeLink), (["hex", "hexdigit"], hexDigit),
  (["hyphen"], hyphen), (["idc", "idcontinue"], idContinue),
  (["idcompatmathcontinue"], idCompatMathContinue), (["idcompatmathstart"], idCompatMathStart),
  (["ids", "idstart"], idStart), (["idsb", "idsbinaryoperator"], idsBinaryOperator),
  (["idst", "idstrinaryoperator"], idsTrinaryOperator),
  (["idsu", "idsunaryoperator"], idsUnaryOperator), (["ideo", "ideographic"], ideographic),
  (["joinc", "joincontrol"], joinControl),
  (["loe", "logicalorderexception"], logicalOrderException), (["lower", "lowercase"], lowercase),
  (["math"], math), (["mcm", "modifiercombiningmark"], modifierCombiningMark),
  (["nchar", "noncharactercodepoint"], noncharacter),
  (["oalpha", "otheralphabetic"], otherAlphabetic),
  (["odi", "otherdefaultignorablecodepoint"], otherDefaultIgnorable),
  (["ogrext", "othergraphemeextend"], otherGraphemeExtend),
  (["oidc", "otheridcontinue"], otherIdContinue), (["oids", "otheridstart"], otherIdStart),
  (["olower", "otherlowercase"], otherLowercase), (["omath", "othermath"], otherMath),
  (["oupper", "otheruppercase"], otherUppercase), (["patsyn", "patternsyntax"], patternSyntax),
  (["patws", "patternwhitespace"], patternWhiteSpace),
  (["pcm", "prependedconcatenationmark"], prependedConcatenationMark),
  (["qmark", "quotationmark"], quotationMark), (["radical"], radical),
  (["ri", "regionalindicator"], regionalIndicator), (["sd", "softdotted"], softDotted),
  (["sterm", "sentenceterminal"], sentenceTerminal),
  (["term", "terminalpunctuation"], terminalPunctuation),
  (["uideo", "unifiedideograph"], unifiedIdeograph), (["upper", "uppercase"], uppercase),
  (["vs", "variationselector"], variationSelector),
  (["space", "whitespace", "wspace"], whiteSpace), (["xidc", "xidcontinue"], xidContinue),
  (["xids", "xidstart"], xidStart)]

def versionNames (version : Nat × Nat) : List String :=
  [toString version.1 ++ "." ++ toString version.2,
    "v" ++ toString version.1 ++ toString version.2]

def age? (name : String) : Option CodeSet :=
  match additions.find? fun e => (versionNames e.1).contains name with
  | some e => assignedBy? e.1
  | none => none

def named? (name : String) : Option CodeSet :=
  let name := plainName name
  match lookupName propertyNames name with
  | some s => some s
  | none =>
    match lookupName categoryNames name with
    | some s => some s
    | none => (script? name).map (·.members)

def valued? (property value : String) : Option CodeSet :=
  let value := plainName value
  match plainName property with
  | "gc" | "generalcategory" => lookupName categoryNames value
  | "sc" | "script" => (script? value).map (·.members)
  | "scx" | "scriptextensions" => (script? value).map (·.uses)
  | "age" => age? value
  | "gcb" | "graphemeclusterbreak" => lookupName graphemeKinds value
  | "wb" | "wordbreak" => lookupName wordKinds value
  | "sb" | "sentencebreak" => lookupName sentenceKinds value
  | _ => none

end WideRow.Unicode
