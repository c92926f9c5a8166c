import FlagDecision.Text.Age
import FlagDecision.Text.Blank
import FlagDecision.Text.Boundary
import FlagDecision.Text.Script

/-!
Sets of characters by name, as patterns cite them: general categories, properties of yes or no,
scripts, versions of Unicode, and the classes that divide a text. Names are read without regard to
case, blanks, hyphens and underscores.
-/

namespace FlagDecision.Pattern

open Text

/-- A property name in its bare form: small letters, no separators, no leading `is`. -/
def bareName (name : List Char) : String :=
  let lead := (name.take 2).map Char.toLower
  let body := if lead = ['i', 's'] then name.drop 2 else name
  let kept := (body.filter fun c => c != ' ' && c != '_' && c != '-' && c.toNat < 0x80).map
    Char.toLower
  if lead = ['i', 's'] ∧ kept = ['c'] then "isc" else String.ofList kept

/-- General categories by short and long name. -/
def category? : String → Option CharSet
  | "any" => some .full
  | "assigned" => some Category.unassigned.compl
  | "ascii" => some (.range (Char.ofNat 0) (Char.ofNat 0x7F))
  | "l" | "letter" => some Category.letter
  | "lc" | "casedletter" => some Category.casedLetter
  | "lu" | "uppercaseletter" => some Category.uppercaseLetter
  | "ll" | "lowercaseletter" => some Category.lowercaseLetter
  | "lt" | "titlecaseletter" => some Category.titlecaseLetter
  | "lm" | "modifierletter" => some Category.modifierLetter
  | "lo" | "otherletter" => some Category.otherLetter
  | "m" | "mark" | "combiningmark" => some Category.mark
  | "mn" | "nonspacingmark" => some Category.nonspacingMark
  | "mc" | "spacingmark" => some Category.spacingMark
  | "me" | "enclosingmark" => some Category.enclosingMark
  | "n" | "number" => some Category.number
  | "nd" | "decimalnumber" | "digit" => some Category.decimalNumber
  | "nl" | "letternumber" => some Category.letterNumber
  | "no" | "othernumber" => some Category.otherNumber
  | "p" | "punctuation" | "punct" => some Category.punctuation
  | "pc" | "connectorpunctuation" => some Category.connectorPunctuation
  | "pd" | "dashpunctuation" => some Category.dashPunctuation
  | "ps" | "openpunctuation" => some Category.openPunctuation
  | "pe" | "closepunctuation" => some Category.closePunctuation
  | "pi" | "initialpunctuation" => some Category.initialPunctuation
  | "pf" | "finalpunctuation" => some Category.finalPunctuation
  | "po" | "otherpunctuation" => some Category.otherPunctuation
  | "s" | "symbol" => some Category.symbol
  | "sm" | "mathsymbol" => some Category.mathSymbol
  | "sc" | "currencysymbol" => some Category.currencySymbol
  | "sk" | "modifiersymbol" => some Category.modifierSymbol
  | "so" | "othersymbol" => some Category.otherSymbol
  | "z" | "separator" => some Category.separator
  | "zs" | "spaceseparator" => some Category.spaceSeparator
  | "zl" | "lineseparator" => some Category.lineSeparator
  | "zp" | "paragraphseparator" => some Category.paragraphSeparator
  | "c" | "other" => some Category.other
  | "cc" | "control" | "cntrl" => some Category.control
  | "cf" | "format" => some Category.format
  | "cn" | "unassigned" => some Category.unassigned
  | "co" | "privateuse" => some Category.privateUse
  | _ => none

/-- Properties of yes or no by short and long name. -/
def binary? : String → Option CharSet
  | "ahex" | "asciihexdigit" => some Property.asciiHexDigit
  | "alpha" | "alphabetic" => some Property.alphabetic
  | "bidic" | "bidicontrol" => some Property.bidiControl
  | "bidim" | "bidimirrored" => some Property.bidiMirrored
  | "cased" => some Property.cased
  | "ci" | "caseignorable" => some Property.caseIgnorable
  | "cwcf" | "changeswhencasefolded" => some Property.changesWhenCasefolded
  | "cwcm" | "changeswhencasemapped" => some Property.changesWhenCasemapped
  | "cwl" | "changeswhenlowercased" => some Property.changesWhenLowercased
  | "cwt" | "changeswhentitlecased" => some Property.changesWhenTitlecased
  | "cwu" | "changeswhenuppercased" => some Property.changesWhenUppercased
  | "dash" => some Property.dash
  | "dep" | "deprecated" => some Property.deprecated
  | "di" | "defaultignorablecodepoint" => some Property.defaultIgnorable
  | "dia" | "diacritic" => some Property.diacritic
  | "ebase" | "emojimodifierbase" => some Property.emojiModifierBase
  | "ecomp" | "emojicomponent" => some Property.emojiComponent
  | "emod" | "emojimodifier" => some Property.emojiModifier
  | "emoji" => some Property.emoji
  | "epres" | "emojipresentation" => some Property.emojiPresentation
  | "ext" | "extender" => some Property.extender
  | "extpict" | "extendedpictographic" => some Property.extendedPictographic
  | "grbase" | "graphemebase" => some Property.graphemeBase
  | "grext" | "graphemeextend" => some Property.graphemeExtend
  | "grlink" | "graphemelink" => some Property.graphemeLink
  | "hex" | "hexdigit" => some Property.hexDigit
  | "hyphen" => some Property.hyphen
  | "idc" | "idcontinue" => some Property.idContinue
  | "idcompatmathcontinue" => some Property.idCompatMathContinue
  | "idcompatmathstart" => some Property.idCompatMathStart
  | "ideo" | "ideographic" => some Property.ideographic
  | "ids" | "idstart" => some Property.idStart
  | "idsb" | "idsbinaryoperator" => some Property.idsBinaryOperator
  | "idst" | "idstrinaryoperator" => some Property.idsTrinaryOperator
  | "idsu" | "idsunaryoperator" => some Property.idsUnaryOperator
  | "joinc" | "joincontrol" => some Property.joinControl
  | "loe" | "logicalorderexception" => some Property.logicalOrderException
  | "lower" | "lowercase" => some Property.lowercase
  | "math" => some Property.mathematical
  | "mcm" | "modifiercombiningmark" => some Property.modifierCombiningMark
  | "nchar" | "noncharactercodepoint" => some Property.noncharacter
  | "oalpha" | "otheralphabetic" => some Property.otherAlphabetic
  | "odi" | "otherdefaultignorablecodepoint" => some Property.otherDefaultIgnorable
  | "ogrext" | "othergraphemeextend" => some Property.otherGraphemeExtend
  | "oidc" | "otheridcontinue" => some Property.otherIdContinue
  | "oids" | "otheridstart" => some Property.otherIdStart
  | "olower" | "otherlowercase" => some Property.otherLowercase
  | "omath" | "othermath" => some Property.otherMath
  | "oupper" | "otheruppercase" => some Property.otherUppercase
  | "patsyn" | "patternsyntax" => some Property.patternSyntax
  | "patws" | "patternwhitespace" => some Property.patternBlank
  | "pcm" | "prependedconcatenationmark" => some Property.prependedConcatenationMark
  | "qmark" | "quotationmark" => some Property.quotationMark
  | "radical" => some Property.radical
  | "ri" | "regionalindicator" => some Property.regionalIndicator
  | "sd" | "softdotted" => some Property.softDotted
  | "sterm" | "sentenceterminal" => some Property.sentenceTerminal
  | "term" | "terminalpunctuation" => some Property.terminalPunctuation
  | "uideo" | "unifiedideograph" => some Property.unifiedIdeograph
  | "upper" | "uppercase" => some Property.uppercase
  | "vs" | "variationselector" => some Property.variationSelector
  | "wspace" | "whitespace" | "space" => some Property.blank
  | "xidc" | "xidcontinue" => some Property.xidContinue
  | "xids" | "xidstart" => some Property.xidStart
  | _ => none

/-- Classes of characters in clusters by short and long name. -/
def clusterBreak? : String → Option CharSet
  | "cn" | "control" => some ClusterBreak.control
  | "cr" => some (.char '\r')
  | "ex" | "extend" => some ClusterBreak.extending
  | "l" => some ClusterBreak.leadingJamo
  | "lf" => some (.char '\n')
  | "lv" => some ClusterBreak.openSyllable
  | "lvt" => some ClusterBreak.closedSyllable
  | "pp" | "prepend" => some ClusterBreak.prepended
  | "ri" | "regionalindicator" => some Property.regionalIndicator
  | "sm" | "spacingmark" => some ClusterBreak.spacing
  | "t" => some ClusterBreak.trailingJamo
  | "v" => some ClusterBreak.vowelJamo
  | "zwj" => some (.char (Char.ofNat 0x200D))
  | _ => none

/-- Classes of characters in words by short and long name. -/
def wordBreak? : String → Option CharSet
  | "le" | "aletter" => some WordBreak.letter
  | "cr" => some (.char '\r')
  | "dq" | "doublequote" => some (.char '"')
  | "extend" => some WordBreak.extending
  | "ex" | "extendnumlet" => some WordBreak.connecting
  | "fo" | "format" => some WordBreak.formatting
  | "hl" | "hebrewletter" => some WordBreak.hebrewLetter
  | "ka" | "katakana" => some WordBreak.katakana
  | "lf" => some (.char '\n')
  | "ml" | "midletter" => some WordBreak.midLetter
  | "mn" | "midnum" => some WordBreak.midNumber
  | "mb" | "midnumlet" => some WordBreak.midEither
  | "nl" | "newline" => some WordBreak.lineEnd
  | "nu" | "numeric" => some WordBreak.numeric
  | "ri" | "regionalindicator" => some Property.regionalIndicator
  | "sq" | "singlequote" => some (.char (Char.ofNat 0x27))
  | "wsegspace" => some WordBreak.space
  | "zwj" => some (.char (Char.ofNat 0x200D))
  | _ => none

/-- Classes of characters in sentences by short and long name. -/
def sentenceBreak? : String → Option CharSet
  | "at" | "aterm" => some SentenceBreak.mayEnd
  | "cl" | "close" => some SentenceBreak.closing
  | "cr" => some (.char '\r')
  | "ex" | "extend" => some SentenceBreak.extending
  | "fo" | "format" => some SentenceBreak.formatting
  | "le" | "oletter" => some SentenceBreak.otherLetter
  | "lf" => some (.char '\n')
  | "lo" | "lower" => some SentenceBreak.lower
  | "nu" | "numeric" => some SentenceBreak.numeric
  | "sc" | "scontinue" => some SentenceBreak.continuing
  | "se" | "sep" => some SentenceBreak.separating
  | "sp" => some SentenceBreak.space
  | "st" | "sterm" => some SentenceBreak.ending
  | "up" | "upper" => some SentenceBreak.upper
  | _ => none

/-- A property cited by one name: a property of yes or no, else a category, else a script. -/
def property? (name : List Char) : Option CharSet :=
  let bare := bareName name
  (binary? bare <|> category? bare) <|> scriptSet? bare

/-- A property cited by kind and value. -/
def propertyValue? (kind value : List Char) : Option CharSet :=
  let value := bareName value
  match bareName kind with
  | "gc" | "generalcategory" => category? value
  | "sc" | "script" => scriptSet? value
  | "scx" | "scriptextensions" => scriptUse? value
  | "age" => ageSet? value
  | "gcb" | "graphemeclusterbreak" => clusterBreak? value
  | "wb" | "wordbreak" => wordBreak? value
  | "sb" | "sentencebreak" => sentenceBreak? value
  | _ => none

/-- A property between braces: one name, or kind and value around `!=`, `:` or `=`. The first part
of the result tells that the rest of the characters is meant, as `!=` has it. -/
def citedProperty? (body : List Char) : Option (Bool × CharSet) :=
  let rec unequal? : List Char → List Char → Option (List Char × List Char)
    | kind, '!' :: '=' :: value => some (kind.reverse, value)
    | kind, c :: rest => unequal? (c :: kind) rest
    | _, [] => none
  match unequal? [] body with
  | some (kind, value) => (propertyValue? kind value).map (true, ·)
  | none =>
    match splitFirst? ':' body <|> splitFirst? '=' body with
    | some (kind, value) => (propertyValue? kind value).map (false, ·)
    | none => (property? body).map (false, ·)

def asciiWord : CharSet := .ofTable "30-39 41-5A 5F 61-7A"

def asciiDigit : CharSet := .ofTable "30-39"

def asciiBlank : CharSet := .ofTable "9-D 20"

/-- The bracketed ASCII classes by name, as in `[:alpha:]`. -/
def asciiClass? : String → Option CharSet
  | "alnum" => some (.ofTable "30-39 41-5A 61-7A")
  | "alpha" => some (.ofTable "41-5A 61-7A")
  | "ascii" => some (.ofTable "0-7F")
  | "blank" => some (.ofTable "9 20")
  | "cntrl" => some (.ofTable "0-1F 7F")
  | "digit" => some asciiDigit
  | "graph" => some (.ofTable "21-7E")
  | "lower" => some (.ofTable "61-7A")
  | "print" => some (.ofTable "20-7E")
  | "punct" => some (.ofTable "21-2F 3A-40 5B-60 7B-7E")
  | "space" => some asciiBlank
  | "upper" => some (.ofTable "41-5A")
  | "word" => some asciiWord
  | "xdigit" => some (.ofTable "30-39 41-46 61-66")
  | _ => none

/-- Characters of words: of every script, or of ASCII only. -/
def wordSet (unicode : Bool) : CharSet := if unicode then Property.word else asciiWord

/-- Decimal digits: of every script, or of ASCII only. -/
def digitSet (unicode : Bool) : CharSet := if unicode then Category.decimalNumber else asciiDigit

/-- White space: of every script, or of ASCII only. -/
def blankSet (unicode : Bool) : CharSet := if unicode then Property.blank else asciiBlank

end FlagDecision.Pattern
