import SyscallNames.Unicode.Age
import SyscallNames.Unicode.CaseChange
import SyscallNames.Unicode.Script
import SyscallNames.Unicode.Segmentation

set_option autoImplicit false

namespace SyscallNames.Unicode

inductive NameFault
  | property
  | value
deriving DecidableEq, Repr

inductive PropertyKind
  | yesNo (s : CharSet)
  | category
  | script
  | sharedScript
  | age
  | classes (values : List (List String × CharSet))
  | other

def isSeparator (c : Char) : Bool := c = ' ' || c = '_' || c = '-'

/-- A name in the form that is compared; only `isc` keeps what looks like `is` in front. -/
def looseName (name : Text) : String :=
  let rest : Text :=
    match name with
    | 'i' :: 's' :: rest | 'I' :: 's' :: rest | 'i' :: 'S' :: rest | 'I' :: 'S' :: rest => rest
    | _ => name
  let loose := (rest.filter fun c => c.toNat < 0x80 && !isSeparator c).map Char.toLower
  if loose = ['c'] ∧ rest.length < name.length then "isc" else String.ofList loose

def other : CharSet :=
  CharSet.complement (.unions [letter, mark, number, punctuation, symbol, separator])

def unassigned : CharSet := other.diff (.unions [control, format, privateUse])

/-- The general categories. No character is a surrogate, so that there is no set of them. -/
def categories : List (List String × Option CharSet) := [
  (["any"], some .any), (["ascii"], some (.range 0 0x7F)),
  (["assigned"], some unassigned.complement), (["cn", "unassigned"], some unassigned),
  (["l", "letter"], some letter), (["lc", "casedletter"], some casedLetter),
  (["lu", "uppercaseletter"], some uppercaseLetter),
  (["ll", "lowercaseletter"], some lowercaseLetter),
  (["lt", "titlecaseletter"], some titlecaseLetter),
  (["lm", "modifierletter"], some modifierLetter), (["lo", "otherletter"], some otherLetter),
  (["m", "mark", "combiningmark"], some mark), (["mn", "nonspacingmark"], some nonspacingMark),
  (["mc", "spacingmark"], some spacingMark), (["me", "enclosingmark"], some enclosingMark),
  (["n", "number"], some number), (["nd", "decimalnumber", "digit"], some decimalNumber),
  (["nl", "letternumber"], some letterNumber), (["no", "othernumber"], some otherNumber),
  (["p", "punctuation", "punct"], some punctuation),
  (["pc", "connectorpunctuation"], some connectorPunctuation),
  (["pd", "dashpunctuation"], some dashPunctuation),
  (["ps", "openpunctuation"], some openPunctuation),
  (["pe", "closepunctuation"], some closePunctuation),
  (["pi", "initialpunctuation"], some initialPunctuation),
  (["pf", "finalpunctuation"], some finalPunctuation),
  (["po", "otherpunctuation"], some otherPunctuation), (["s", "symbol"], some symbol),
  (["sm", "mathsymbol"], some mathSymbol), (["sc", "currencysymbol"], some currencySymbol),
  (["sk", "modifiersymbol"], some modifierSymbol), (["so", "othersymbol"], some otherSymbol),
  (["z", "separator"], some separator), (["zs", "spaceseparator"], some spaceSeparator),
  (["zl", "lineseparator"], some lineSeparator),
  (["zp", "paragraphseparator"], some paragraphSeparator), (["c", "other"], some other),
  (["cc", "control", "cntrl"], some control), (["cf", "format"], some format),
  (["co", "privateuse"], some privateUse), (["cs", "surrogate"], none)]

def Script.charSet (s : Script) : CharSet := .ofRows s.members

def sharedPoints : CharSet := .unions (scripts.map fun s => .ofRows s.shared)

def Script.sharedCharSet (s : Script) : CharSet :=
  if s.names.head? = some "zyyy" ∨ s.names.head? = some "zinh" then s.charSet.diff sharedPoints
  else s.charSet.union (.ofRows s.shared)

def script? (name : String) : Option Script := scripts.find? fun s => s.names.contains name

def emptyScripts : List String := ["zzzz", "unknown", "hrkt", "katakanaorhiragana"]

def yesNoProperties : List (List String × CharSet) := [
  (["asciihexdigit", "ahex"], asciiHexDigit), (["alphabetic", "alpha"], alphabetic),
  (["bidicontrol", "bidic"], bidiControl), (["bidimirrored", "bidim"], bidiMirrored),
  (["caseignorable", "ci"], caseIgnorable), (["cased"], cased),
  (["changeswhencasefolded", "cwcf"], changesWhenCasefolded),
  (["changeswhencasemapped", "cwcm"], changesWhenCasemapped),
  (["changeswhenlowercased", "cwl"], changesWhenLowercased),
  (["changeswhentitlecased", "cwt"], changesWhenTitlecased),
  (["changeswhenuppercased", "cwu"], changesWhenUppercased), (["dash"], dash),
  (["defaultignorablecodepoint", "di"], defaultIgnorable),
  (["deprecated", "dep"], deprecatedPoint), (["diacritic", "dia"], diacritic),
  (["emoji"], emoji), (["emojicomponent", "ecomp"], emojiComponent),
  (["emojimodifier", "emod"], emojiModifier),
  (["emojimodifierbase", "ebase"], emojiModifierBase),
  (["emojipresentation", "epres"], emojiPresentation),
  (["extendedpictographic", "extpict"], extendedPictographic), (["extender", "ext"], extender),
  (["graphemebase", "grbase"], graphemeBase), (["graphemeextend", "grext"], graphemeExtend),
  (["graphemelink", "grlink"], graphemeLink), (["hexdigit", "hex"], hexDigit),
  (["hyphen"], hyphen), (["idcompatmathcontinue"], compatMathContinue),
  (["idcompatmathstart"], compatMathStart), (["idcontinue", "idc"], idContinue),
  (["idstart", "ids"], idStart), (["idsbinaryoperator", "idsb"], idsBinaryOperator),
  (["idstrinaryoperator", "idst"], idsTrinaryOperator),
  (["idsunaryoperator", "idsu"], idsUnaryOperator), (["ideographic", "ideo"], ideographic),
  (["joincontrol", "joinc"], joinControl),
  (["logicalorderexception", "loe"], logicalOrderException),
  (["lowercase", "lower"], lowercase), (["math"], math),
  (["modifiercombiningmark", "mcm"], modifierCombiningMark),
  (["noncharactercodepoint", "nchar"], noncharacter),
  (["otheralphabetic", "oalpha"], otherAlphabetic),
  (["otherdefaultignorablecodepoint", "odi"], otherDefaultIgnorable),
  (["othergraphemeextend", "ogrext"], otherGraphemeExtend),
  (["otheridcontinue", "oidc"], otherIdContinue), (["otheridstart", "oids"], otherIdStart),
  (["otherlowercase", "olower"], otherLowercase), (["othermath", "omath"], otherMath),
  (["otheruppercase", "oupper"], otherUppercase), (["patternsyntax", "patsyn"], patternSyntax),
  (["patternwhitespace", "patws"], patternWhiteSpace),
  (["prependedconcatenationmark", "pcm"], prependedConcatenationMark),
  (["quotationmark", "qmark"], quotationMark), (["radical"], radical),
  (["regionalindicator", "ri"], regionalIndicator),
  (["sentenceterminal", "sterm"], sentenceTerminal),
  (["softdotted", "sd"], softDotted), (["terminalpunctuation", "term"], terminalPunctuation),
  (["unifiedideograph", "uideo"], unifiedIdeograph), (["uppercase", "upper"], uppercase),
  (["variationselector", "vs"], variationSelector),
  (["whitespace", "wspace", "space"], whiteSpace), (["xidcontinue", "xidc"], xidContinue),
  (["xidstart", "xids"], xidStart)]

def otherProperties : List String := [
  "bc", "bidiclass", "bidimirroringglyph", "bidipairedbracket", "bidipairedbrackettype", "blk",
  "block", "bmg", "bpb", "bpt", "canonicalcombiningclass", "casefolding", "ccc", "ce", "cf",
  "changeswhennfkccasefolded", "compex", "compositionexclusion", "cwkcf", "decompositionmapping",
  "decompositiontype", "dm", "dt", "ea", "eastasianwidth", "equideo", "equivalentunifiedideograph",
  "expandsonnfc", "expandsonnfd", "expandsonnfkc", "expandsonnfkd", "fcnfkc", "fcnfkcclosure",
  "fullcompositionexclusion", "hangulsyllabletype", "hst", "incb", "indicconjunctbreak",
  "indicpositionalcategory", "indicsyllabiccategory", "inpc", "insc", "isc", "isocomment",
  "jamoshortname", "jg", "joininggroup", "joiningtype", "jsn", "jt", "lb", "lc", "linebreak",
  "lowercasemapping", "na", "na1", "name", "namealias", "nfcqc", "nfcquickcheck", "nfdqc",
  "nfdquickcheck", "nfkccasefold", "nfkccf", "nfkcqc", "nfkcquickcheck", "nfkcscf",
  "nfkcsimplecasefold", "nfkdqc", "nfkdquickcheck", "nt", "numerictype", "numericvalue", "nv",
  "scf", "sfc", "simplecasefolding", "simplelowercasemapping", "simpletitlecasemapping",
  "simpleuppercasemapping", "slc", "stc", "suc", "tc", "titlecasemapping", "uc", "unicode1name",
  "unicoderadicalstroke", "uppercasemapping", "verticalorientation", "vo", "xonfc", "xonfd",
  "xonfkc", "xonfkd"]

def property? (name : String) : Option PropertyKind :=
  match yesNoProperties.find? fun entry => entry.1.contains name with
  | some entry => some (.yesNo entry.2)
  | none =>
    if name = "gc" ∨ name = "generalcategory" then some .category
    else if name = "sc" ∨ name = "script" then some .script
    else if name = "scx" ∨ name = "scriptextensions" then some .sharedScript
    else if name = "age" then some .age
    else if name = "gcb" ∨ name = "graphemeclusterbreak" then some (.classes clusterClasses)
    else if name = "wb" ∨ name = "wordbreak" then some (.classes wordClasses)
    else if name = "sb" ∨ name = "sentencebreak" then some (.classes sentenceClasses)
    else if otherProperties.contains name then some .other
    else none

def categorySet? (name : String) : Option (Except NameFault CharSet) :=
  (categories.find? fun entry => entry.1.contains name).map fun entry =>
    match entry.2 with
    | some s => .ok s
    | none => .error .value

def scriptSet? (name : String) : Option (Except NameFault CharSet) :=
  if emptyScripts.contains name then some (.error .value)
  else (script? name).map fun s => .ok s.charSet

/-- Three names of properties that are read as names of categories. -/
def isCategoryFirst (name : String) : Bool := name = "cf" || name = "sc" || name = "lc"

def setOfName (name : Text) : Except NameFault CharSet :=
  let name := looseName name
  let property := if isCategoryFirst name then none else property? name
  match property with
  | some (.yesNo s) => .ok s
  | some _ => .error .property
  | none => ((categorySet? name).orElse fun _ => scriptSet? name).getD (.error .property)

def setOfValue (name value : Text) : Except NameFault CharSet :=
  let value := looseName value
  match property? (looseName name) with
  | none => .error .property
  | some .category => (categorySet? value).getD (.error .value)
  | some .script => (scriptSet? value).getD (.error .value)
  | some .sharedScript => ((script? value).map Script.sharedCharSet).elim (.error .value) .ok
  | some .age => (ageSet? value).elim (.error .value) .ok
  | some (.classes values) =>
    (values.find? fun entry => entry.1.contains value).elim (.error .value) fun entry =>
      .ok entry.2
  | some _ => .error .value

end SyscallNames.Unicode
