import EscapeAudit.Pattern.Fault
import EscapeAudit.Pattern.Tree
import EscapeAudit.Text.AgeTable
import EscapeAudit.Text.Segment

/-!
# Properties of characters by name

A set of characters can be asked for by the name of a property of the Unicode character database.
In a name, case and separators do not matter, nor does the word "is" at its front.
-/

namespace EscapeAudit

open Text (CharSet)

namespace PropertyName

/-- The name in lower case and without separators. -/
def plainChars (cs : List Char) : List Char :=
  (cs.filter fun c => c.toNat < 0x80 && c != ' ' && c != '_' && c != '-').map Char.toLower

/-- The name without separators and without "is" at its front.  A lone `c` behind it keeps it,
because that is a name of its own. -/
def normal (name : String) : String :=
  match name.toList with
  | i :: s :: cs =>
    if i.toLower == 'i' && s.toLower == 's' then
      let rest := String.ofList (plainChars cs)
      if rest == "c" then "isc" else rest
    else String.ofList (plainChars name.toList)
  | cs => String.ofList (plainChars cs)

/-- The categories with their names. -/
def categories : List (List String × List Text.Category) := [
  (["c", "other"], Text.Category.others),
  (["cc", "control", "cntrl"], [.cc]),
  (["cf", "format"], [.cf]),
  (["cn", "unassigned"], [.cn]),
  (["co", "privateuse"], [.co]),
  (["l", "letter"], Text.Category.letters),
  (["lc", "casedletter"], Text.Category.casedLetters),
  (["ll", "lowercaseletter"], [.ll]),
  (["lm", "modifierletter"], [.lm]),
  (["lo", "otherletter"], [.lo]),
  (["lt", "titlecaseletter"], [.lt]),
  (["lu", "uppercaseletter"], [.lu]),
  (["m", "mark", "combiningmark"], Text.Category.marks),
  (["mc", "spacingmark"], [.mc]),
  (["me", "enclosingmark"], [.me]),
  (["mn", "nonspacingmark"], [.mn]),
  (["n", "number"], Text.Category.numbers),
  (["nd", "decimalnumber", "digit"], [.nd]),
  (["nl", "letternumber"], [.nl]),
  (["no", "othernumber"], [.no]),
  (["p", "punctuation", "punct"], Text.Category.punctuation),
  (["pc", "connectorpunctuation"], [.pc]),
  (["pd", "dashpunctuation"], [.pd]),
  (["pe", "closepunctuation"], [.pe]),
  (["pf", "finalpunctuation"], [.pf]),
  (["pi", "initialpunctuation"], [.pi]),
  (["po", "otherpunctuation"], [.po]),
  (["ps", "openpunctuation"], [.ps]),
  (["s", "symbol"], Text.Category.symbols),
  (["sc", "currencysymbol"], [.sc]),
  (["sk", "modifiersymbol"], [.sk]),
  (["sm", "mathsymbol"], [.sm]),
  (["so", "othersymbol"], [.so]),
  (["z", "separator"], Text.Category.separators),
  (["zl", "lineseparator"], [.zl]),
  (["zp", "paragraphseparator"], [.zp]),
  (["zs", "spaceseparator"], [.zs])]

/-- The properties that a character has or does not have, with their names. -/
def binaries : List (List String × CharSet) := [
  (["asciihexdigit", "ahex"], .asciiHexDigit),
  (["alphabetic", "alpha"], .alphabetic),
  (["bidicontrol", "bidic"], .bidiControl),
  (["bidimirrored", "bidim"], .bidiFlipped),
  (["cased"], .cased),
  (["caseignorable", "ci"], .caseIgnorable),
  (["changeswhencasefolded", "cwcf"], .changesWhenCasefolded),
  (["changeswhencasemapped", "cwcm"], .changesWhenCasemapped),
  (["changeswhenlowercased", "cwl"], .changesWhenLowercased),
  (["changeswhentitlecased", "cwt"], .changesWhenTitlecased),
  (["changeswhenuppercased", "cwu"], .changesWhenUppercased),
  (["dash"], .dash),
  (["defaultignorablecodepoint", "di"], .defaultIgnorableCodePoint),
  (["deprecated", "dep"], .deprecated),
  (["diacritic", "dia"], .diacritic),
  (["emojimodifierbase", "ebase"], .emojiModifierBase),
  (["emojicomponent", "ecomp"], .emojiComponent),
  (["emojimodifier", "emod"], .emojiModifier),
  (["emoji"], .emoji),
  (["emojipresentation", "epres"], .emojiPresentation),
  (["extender", "ext"], .extender),
  (["extendedpictographic", "extpict"], .extendedPictographic),
  (["graphemebase", "grbase"], .graphemeBase),
  (["graphemeextend", "grext"], .graphemeExtend),
  (["graphemelink", "grlink"], .graphemeLink),
  (["hexdigit", "hex"], .hexDigit),
  (["hyphen"], .hyphen),
  (["idcontinue", "idc"], .idContinue),
  (["idcompatmathcontinue"], .idCompatMathContinue),
  (["idcompatmathstart"], .idCompatMathStart),
  (["ideographic", "ideo"], .ideographic),
  (["idstart", "ids"], .idStart),
  (["idsbinaryoperator", "idsb"], .idsBinaryOperator),
  (["idstrinaryoperator", "idst"], .idsTrinaryOperator),
  (["idsunaryoperator", "idsu"], .idsUnaryOperator),
  (["joincontrol", "joinc"], .joinControl),
  (["logicalorderexception", "loe"], .logicalOrderException),
  (["lowercase", "lower"], .lowercase),
  (["math"], .math),
  (["modifiercombiningmark", "mcm"], .modifierCombiningMark),
  (["noncharactercodepoint", "nchar"], .noncharacterCodePoint),
  (["otheralphabetic", "oalpha"], .otherAlphabetic),
  (["otherdefaultignorablecodepoint", "odi"], .otherDefaultIgnorableCodePoint),
  (["othergraphemeextend", "ogrext"], .otherGraphemeExtend),
  (["otheridcontinue", "oidc"], .otherIdContinue),
  (["otheridstart", "oids"], .otherIdStart),
  (["otherlowercase", "olower"], .otherLowercase),
  (["othermath", "omath"], .otherMath),
  (["otheruppercase", "oupper"], .otherUppercase),
  (["patternsyntax", "patsyn"], .patternSyntax),
  (["patternwhitespace", "patws"], .patternWhiteSpace),
  (["prependedconcatenationmark", "pcm"], .prependedConcatenationMark),
  (["quotationmark", "qmark"], .quotationMark),
  (["radical"], .radical),
  (["regionalindicator", "ri"], .regionalIndicator),
  (["softdotted", "sd"], .softDotted),
  (["sentenceterminal", "sterm"], .sentenceTerminal),
  (["whitespace", "space", "wspace"], .whiteSpace),
  (["terminalpunctuation", "term"], .terminalPunctuation),
  (["unifiedideograph", "uideo"], .unifiedIdeograph),
  (["uppercase", "upper"], .uppercase),
  (["variationselector", "vs"], .variationSelector),
  (["xidcontinue", "xidc"], .xidContinue),
  (["xidstart", "xids"], .xidStart)]

/-- The names of all other properties whose values cannot be asked for. -/
def unsupported : List String := [
  "bc", "bidiclass", "bidimirroringglyph", "bidipairedbracket", "bidipairedbrackettype", "blk",
  "block", "bmg", "bpb", "bpt", "canonicalcombiningclass", "casefolding", "ccc", "ce", "cf",
  "changeswhennfkccasefolded", "cjkaccountingnumeric", "cjkcompatibilityvariant", "cjkiicore",
  "cjkirggsource", "cjkirghsource", "cjkirgjsource", "cjkirgkpsource", "cjkirgksource",
  "cjkirgmsource", "cjkirgssource", "cjkirgtsource", "cjkirguksource", "cjkirgusource",
  "cjkirgvsource", "cjkothernumeric", "cjkprimarynumeric", "cjkrsunicode", "compex",
  "compositionexclusion", "cwkcf", "decompositionmapping", "decompositiontype", "dm", "dt", "ea",
  "eastasianwidth", "equideo", "equivalentunifiedideograph", "expandsonnfc", "expandsonnfd",
  "expandsonnfkc", "expandsonnfkd", "fcnfkc", "fcnfkcclosure", "fullcompositionexclusion",
  "hangulsyllabletype", "hst", "incb", "indicconjunctbreak", "indicpositionalcategory",
  "indicsyllabiccategory", "inpc", "insc", "isc", "jamoshortname", "jg", "joininggroup",
  "joiningtype", "jsn", "jt", "kaccountingnumeric", "kcompatibilityvariant", "kehcat", "kehdesc",
  "kehhg", "kehifao", "kehjsesh", "kehnomirror", "kehnorotate", "kiicore", "kirggsource",
  "kirghsource", "kirgjsource", "kirgkpsource", "kirgksource", "kirgmsource", "kirgssource",
  "kirgtsource", "kirguksource", "kirgusource", "kirgvsource", "kothernumeric",
  "kprimarynumeric", "krsunicode", "lb", "lc", "linebreak", "lowercasemapping", "na", "na1",
  "name", "namealias", "nfcqc", "nfcquickcheck", "nfdqc", "nfdquickcheck", "nfkccasefold",
  "nfkccf", "nfkcqc", "nfkcquickcheck", "nfkcscf", "nfkcsimplecasefold", "nfkdqc",
  "nfkdquickcheck", "nt", "numerictype", "numericvalue", "nv", "ocomment", "scf", "sfc",
  "simplecasefolding", "simplelowercasemapping", "simpletitlecasemapping",
  "simpleuppercasemapping", "slc", "stc", "suc", "tc", "titlecasemapping", "uc", "unicode1name",
  "unicoderadicalstroke", "uppercasemapping", "urs", "verticalorientation", "vo", "xonfc",
  "xonfd", "xonfkc", "xonfkd"]

/-- The entry of a list with a name. -/
def find? {α : Type} (name : String) (entries : List (List String × α)) : Option α :=
  (entries.find? fun entry => entry.1.contains name).map Prod.snd

/-- The value that was found, or that there is no such value. -/
def valueOf : Option CharSet → Except PatternProblem CharSet
  | some set => .ok set
  | none => .error .propertyValueNotFound

/-- The set of the characters of a category.  Halves of pairs of units are no characters. -/
def category? (name : String) : Option (Except PatternProblem CharSet) :=
  match name with
  | "any" => some (.ok .any)
  | "ascii" => some (.ok .ascii)
  | "assigned" => some (.ok .assigned)
  | "cs" | "surrogate" => some (.error .propertyValueNotFound)
  | name => (find? name categories).map fun cs => .ok (.ofCategories cs)

/-- The script with a name. -/
def script? (name : String) : Option Text.Script :=
  Text.scripts.find? fun script => script.names.contains name

/-- The characters that belong to a script.  A script without characters is no value. -/
def scriptSet (script : Text.Script) : Except PatternProblem CharSet :=
  if script.chars.isEmpty then .error .propertyValueNotFound else .ok script.chars

/-- The characters that are used in a script. -/
def usedIn (script : Text.Script) : CharSet :=
  let shared := Text.sharedChars.filter fun entry => entry.1.any script.names.contains
  .unions (script.chars.minus (.unions (Text.sharedChars.map Prod.snd)) :: shared.map Prod.snd)

/-- The characters that the edition with a name knows, those of all earlier ones too. -/
def knownSince? (name : String) : Option CharSet :=
  let earlier := Text.ages.takeWhile fun entry => !entry.1.contains name
  (find? name Text.ages).map fun set => .unions (set :: earlier.map Prod.snd)

/-- The set that a name stands for: a property, a category or a script. -/
def plainSet (name : String) : Except PatternProblem CharSet :=
  match find? name binaries, category? name, script? name with
  | some set, _, _ => .ok set
  | none, some result, _ => result
  | none, none, some script => scriptSet script
  | none, none, none => .error .propertyNotFound

/-- The set that the value of a property stands for. -/
def valuedSet (name value : String) : Except PatternProblem CharSet :=
  match name with
  | "gc" | "generalcategory" => (category? value).getD (.error .propertyValueNotFound)
  | "sc" | "script" => ((script? value).map scriptSet).getD (.error .propertyValueNotFound)
  | "scx" | "scriptextensions" =>
    match script? value with
    | some script => (scriptSet script).map fun _ => usedIn script
    | none => .error .propertyValueNotFound
  | "age" => valueOf (knownSince? value)
  | "gcb" | "graphemeclusterbreak" => valueOf (find? value CharSet.graphemeBreaks)
  | "wb" | "wordbreak" => valueOf (find? value CharSet.wordBreaks)
  | "sb" | "sentencebreak" => valueOf (find? value CharSet.sentenceBreaks)
  | name =>
    if unsupported.contains name || (find? name binaries).isSome then .error .propertyValueNotFound
    else .error .propertyNotFound

/-- The set that a property stands for. -/
def set : PropertyName → Except PatternProblem CharSet
  | plain name => plainSet (normal name)
  | valued name value => valuedSet (normal name) (normal value)

end PropertyName

end EscapeAudit
