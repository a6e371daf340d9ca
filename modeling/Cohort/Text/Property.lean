import Cohort.Text.Property.Binary

/-! Character properties that can be asked for by name. -/
namespace Cohort.Text

/-- A named class of characters. -/
inductive Property where
  | any | assigned | ascii
  | category (category : Category)
  | group (letter : Char)
  | casedLetter
  | script (code : String)
  /-- Characters that are used with a script, its own among them. -/
  | scriptExtension (code : String)
  /-- Characters that an edition of the character data knows. -/
  | age (edition : Edition)
  | graphemeBreak (kind : Edition16.GraphemeBreak)
  | wordBreak (kind : Edition16.WordBreak)
  | sentenceBreak (kind : Edition16.SentenceBreak)
  | binary (property : BinaryProperty)
  deriving DecidableEq, Repr

namespace Property

def holds : Property → Char → Bool
  | .any, _ => true
  | .assigned, c => Edition16.category c != .unassigned
  | .ascii, c => c.toNat < 128
  | .category k, c => Edition16.category c == k
  | .group letter, c => (Edition16.category c).group == letter
  | .casedLetter, c =>
    [Category.uppercaseLetter, .lowercaseLetter, .titlecaseLetter].contains (Edition16.category c)
  | .script code, c => Text.script c == code
  | .scriptExtension code, c => (scriptExtensions c).contains code
  | .age edition, c => (Text.age c).any (·.le edition)
  | .graphemeBreak kind, c => Edition16.graphemeBreak? c == some kind
  | .wordBreak kind, c => Edition16.wordBreak? c == some kind
  | .sentenceBreak kind, c => Edition16.sentenceBreak? c == some kind
  | .binary property, c => property.holds c

/-- The names of categories and of groups of categories. -/
def categoryNames : List (String × Property) :=
  [("any", .any), ("assigned", .assigned), ("ascii", .ascii), ("letter", .group 'L'),
    ("l", .group 'L'), ("mark", .group 'M'), ("m", .group 'M'), ("combiningmark", .group 'M'),
    ("number", .group 'N'), ("n", .group 'N'), ("punctuation", .group 'P'), ("p", .group 'P'),
    ("punct", .group 'P'), ("symbol", .group 'S'), ("s", .group 'S'), ("separator", .group 'Z'),
    ("z", .group 'Z'), ("other", .group 'C'), ("c", .group 'C'), ("casedletter", .casedLetter),
    ("lc", .casedLetter), ("uppercaseletter", .category .uppercaseLetter),
    ("lowercaseletter", .category .lowercaseLetter),
    ("titlecaseletter", .category .titlecaseLetter),
    ("modifierletter", .category .modifierLetter), ("otherletter", .category .otherLetter),
    ("nonspacingmark", .category .nonspacingMark), ("spacingmark", .category .spacingMark),
    ("enclosingmark", .category .enclosingMark), ("decimalnumber", .category .decimalNumber),
    ("digit", .category .decimalNumber), ("letternumber", .category .letterNumber),
    ("othernumber", .category .otherNumber),
    ("connectorpunctuation", .category .connectorPunctuation),
    ("dashpunctuation", .category .dashPunctuation),
    ("openpunctuation", .category .openPunctuation),
    ("closepunctuation", .category .closePunctuation),
    ("initialpunctuation", .category .initialPunctuation),
    ("finalpunctuation", .category .finalPunctuation),
    ("otherpunctuation", .category .otherPunctuation), ("mathsymbol", .category .mathSymbol),
    ("currencysymbol", .category .currencySymbol),
    ("modifiersymbol", .category .modifierSymbol), ("othersymbol", .category .otherSymbol),
    ("spaceseparator", .category .spaceSeparator),
    ("lineseparator", .category .lineSeparator),
    ("paragraphseparator", .category .paragraphSeparator), ("control", .category .control),
    ("cntrl", .category .control), ("format", .category .format),
    ("privateuse", .category .privateUse), ("unassigned", .category .unassigned)]

/-- A name in lower case, without blanks, hyphens, underscores and letters beyond ASCII. -/
def bareName (name : List Char) : List Char :=
  (name.filter fun c => c != ' ' && c != '_' && c != '-' && c.toNat < 128).map Char.toLower

/-- The form in which names are compared. An `is` at the very front is left out, too; but `isc` is
the name of a property that is not to be taken for the group of categories `c`. -/
def looseName (name : List Char) : String :=
  let bare := match name with
    | i :: s :: rest =>
      if i.toLower = 'i' ∧ s.toLower = 's' then
        if bareName rest = ['c'] then ['i', 's', 'c'] else bareName rest
      else bareName name
    | _ => bareName name
  String.ofList bare

/-- The category, or group of categories, with a name; surrogates are no characters, and their
category has none. -/
def ofCategoryName? (name : String) : Option Property :=
  match categoryNames.lookup name with
  | some property => some property
  | none =>
    (Category.all.find? fun k => k != .surrogate && k.code.toLower == name).map .category

/-- The code of the script with a name. -/
def scriptOfName? (name : String) : Option String :=
  (scriptAliases.find? fun entry => String.ofList (bareName entry.1.toList) == name).map (·.2)

/-- The edition with a name such as `6.0` or, in the form for comparison, `v60`. -/
def editionOfName? (name : String) : Option Edition :=
  editions.find? fun e =>
    let major := toString e.major
    let minor := toString e.minor
    name == major ++ "." ++ minor || name == "v" ++ major ++ minor

/-- Names of the parts that characters play in what a reader sees as one character. -/
def graphemeBreakNames : List (String × Edition16.GraphemeBreak) :=
  [("control", .control), ("cn", .control), ("cr", .cr), ("extend", .extend), ("ex", .extend),
    ("l", .initialJamo), ("lf", .lf), ("lv", .openSyllable), ("lvt", .closedSyllable),
    ("prepend", .leading), ("pp", .leading), ("regionalindicator", .regionalIndicator),
    ("ri", .regionalIndicator), ("spacingmark", .spacing), ("sm", .spacing), ("t", .finalJamo),
    ("v", .vowelJamo), ("zwj", .joiner)]

/-- Names of the parts that characters play in words. -/
def wordBreakNames : List (String × Edition16.WordBreak) :=
  [("aletter", .letter), ("le", .letter), ("cr", .cr), ("doublequote", .doubleQuote),
    ("dq", .doubleQuote), ("extend", .extend), ("extendnumlet", .extendNumLet),
    ("ex", .extendNumLet), ("format", .format), ("fo", .format),
    ("hebrewletter", .hebrewLetter), ("hl", .hebrewLetter), ("katakana", .katakana),
    ("ka", .katakana), ("lf", .lf), ("midletter", .midLetter), ("ml", .midLetter),
    ("midnum", .midNum), ("mn", .midNum), ("midnumlet", .midNumLet), ("mb", .midNumLet),
    ("newline", .newline), ("nl", .newline), ("numeric", .numeric), ("nu", .numeric),
    ("regionalindicator", .regionalIndicator), ("ri", .regionalIndicator),
    ("singlequote", .singleQuote), ("sq", .singleQuote), ("wsegspace", .blank),
    ("zwj", .joiner)]

/-- Names of the parts that characters play in sentences. -/
def sentenceBreakNames : List (String × Edition16.SentenceBreak) :=
  [("aterm", .fullStop), ("at", .fullStop), ("close", .closing), ("cl", .closing), ("cr", .cr),
    ("extend", .extend), ("ex", .extend), ("format", .format), ("fo", .format), ("lf", .lf),
    ("lower", .lower), ("lo", .lower), ("numeric", .numeric), ("nu", .numeric),
    ("oletter", .otherLetter), ("le", .otherLetter), ("scontinue", .goesOn), ("sc", .goesOn),
    ("sep", .separator), ("se", .separator), ("sp", .blank), ("sterm", .terminal),
    ("st", .terminal), ("upper", .upper), ("up", .upper)]

/-- The property of a name that stands alone. -/
def ofName? (name : List Char) : Option Property :=
  let name := looseName name
  match BinaryProperty.ofName? name with
  | some property => some (.binary property)
  | none => (ofCategoryName? name).orElse fun _ => (scriptOfName? name).map .script

/-- The property of having one value of a property that has many. -/
def ofPair? (name value : List Char) : Option Property :=
  let value := looseName value
  match looseName name with
  | "generalcategory" | "gc" => ofCategoryName? value
  | "script" | "sc" => (scriptOfName? value).map .script
  | "scriptextensions" | "scx" => (scriptOfName? value).map .scriptExtension
  | "age" => (editionOfName? value).map .age
  | "graphemeclusterbreak" | "gcb" => (graphemeBreakNames.lookup value).map .graphemeBreak
  | "wordbreak" | "wb" => (wordBreakNames.lookup value).map .wordBreak
  | "sentencebreak" | "sb" => (sentenceBreakNames.lookup value).map .sentenceBreak
  | _ => none

end Property

end Cohort.Text
