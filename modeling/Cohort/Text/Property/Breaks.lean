import Cohort.Text.Property.Identifiers
import Cohort.Text.Property.Shape
import Cohort.Text.Script

/-!
What part a character plays where a text is cut into the characters that a reader sees, into words,
and into sentences. In each of the three a character has at most one part, which the tests below
find in order.
-/
namespace Cohort.Text.Edition16

/-- Whether a code point lies in one of some ranges. -/
def inRanges (ranges : List (Nat × Nat)) (c : Char) : Bool :=
  ranges.any fun range => range.1 ≤ c.toNat && c.toNat ≤ range.2

/-- The part of a character in what a reader sees as one character. -/
inductive GraphemeBreak where
  | cr | lf | control | extend | joiner | regionalIndicator | leading | spacing
  /-- Consonants that begin a syllable, vowels, consonants that end one, and whole syllables. -/
  | initialJamo | vowelJamo | finalJamo | openSyllable | closedSyllable
  deriving DecidableEq, Repr

/-- Letters that are written in front of others, as one character with them. -/
def leadingLetters : List (Nat × Nat) :=
  [(0xD4E, 0xD4E), (0x111C2, 0x111C3), (0x113D1, 0x113D1), (0x1193F, 0x1193F), (0x11941, 0x11941),
    (0x11A3A, 0x11A3A), (0x11A84, 0x11A89), (0x11D46, 0x11D46), (0x11F02, 0x11F02)]

/-- Spacing marks that stand by themselves. -/
def loneMarks : List (Nat × Nat) :=
  [(0x102B, 0x102C), (0x1038, 0x1038), (0x1062, 0x1064), (0x1067, 0x106D), (0x1083, 0x1083),
    (0x1087, 0x108C), (0x108F, 0x108F), (0x109A, 0x109C), (0x1A61, 0x1A61), (0x1A63, 0x1A64),
    (0xAA7B, 0xAA7B), (0xAA7D, 0xAA7D), (0x11720, 0x11721)]

/-- Vowels written after their consonant that are letters by their category. -/
def letterVowels : List (Nat × Nat) := [(0xE33, 0xE33), (0xEB3, 0xEB3)]

/-- The part of a character in a syllable. -/
def jamo? (c : Char) : Option GraphemeBreak :=
  let n := c.toNat
  if inRanges [(0x1100, 0x115F), (0xA960, 0xA97C)] c then some .initialJamo
  else if inRanges [(0x1160, 0x11A7), (0xD7B0, 0xD7C6), (0x16D63, 0x16D63), (0x16D67, 0x16D6A)] c
    then some .vowelJamo
  else if inRanges [(0x11A8, 0x11FF), (0xD7CB, 0xD7FB)] c then some .finalJamo
  else if inRanges [(0xAC00, 0xD7A3)] c then
    if (n - 0xAC00) % 28 = 0 then some .openSyllable else some .closedSyllable
  else none

def graphemeBreak? (c : Char) : Option GraphemeBreak :=
  let k := category c
  if c = '\r' then some .cr
  else if c = '\n' then some .lf
  else if c = '\u200d' then some .joiner
  else if isRegionalIndicator c then some .regionalIndicator
  else if isPrependedConcatenationMark c || inRanges leadingLetters c then some .leading
  else if isGraphemeExtend c || isEmojiModifier c then some .extend
  else if [Category.control, .format, .lineSeparator, .paragraphSeparator].contains k
      || (k == .unassigned && isDefaultIgnorable c) then some .control
  else if (k == .spacingMark && !inRanges loneMarks c) || inRanges letterVowels c then some .spacing
  else jamo? c

/-- The part of a character in a word. -/
inductive WordBreak where
  | cr | lf | newline | joiner | regionalIndicator | extend | numeric | hebrewLetter | katakana
  | singleQuote | doubleQuote | extendNumLet
  /-- Punctuation within words, within numbers, and within both. -/
  | midLetter | midNum | midNumLet
  | blank | format | letter
  deriving DecidableEq, Repr

/-- Signs that go with the Katakana script although other scripts use them, too. -/
def katakanaSigns : List (Nat × Nat) :=
  [(0x3031, 0x3035), (0x309B, 0x309C), (0x30A0, 0x30A0), (0x30FC, 0x30FC), (0xFF70, 0xFF70)]

/-- Characters that count as letters of words although they are not alphabetic. -/
def letterSigns : List (Nat × Nat) :=
  [(0xB8, 0xB8), (0x2C2, 0x2C5), (0x2D2, 0x2D7), (0x2DE, 0x2DF), (0x2E5, 0x2EB), (0x2ED, 0x2ED),
    (0x2EF, 0x2FF), (0x55A, 0x55C), (0x55E, 0x55E), (0x58A, 0x58A), (0x5F3, 0x5F3),
    (0xA708, 0xA716), (0xA720, 0xA721), (0xA789, 0xA78A), (0xAB5B, 0xAB5B)]

/-- Scripts that are written without spaces between words. -/
def unspacedScripts : List String :=
  ["Hira", "Thai", "Laoo", "Khmr", "Mymr", "Tale", "Talu", "Lana", "Tavt", "Ahom"]

/-- The one prepended sign that belongs to words and not to numbers. -/
def syriacAbbreviationMark : Char := '\u070f'

/-- Digits, and signs that are written with them. -/
def isNumeral (c : Char) : Bool :=
  category c == .decimalNumber || c == '\u066b' || c == '\u19da'
    || (isPrependedConcatenationMark c && c != syriacAbbreviationMark)

def wordBreak? (c : Char) : Option WordBreak :=
  let k := category c
  if c = '\r' then some .cr
  else if c = '\n' then some .lf
  else if inRanges [(0xB, 0xC), (0x85, 0x85), (0x2028, 0x2029)] c then some .newline
  else if c = '\u200d' then some .joiner
  else if isRegionalIndicator c then some .regionalIndicator
  else if isGraphemeExtend c || k == .spacingMark || isEmojiModifier c then some .extend
  else if isNumeral c then some .numeric
  else if c = '\x27' then some .singleQuote
  else if c = '"' then some .doubleQuote
  else if [' ', '\u1680', '\u205f', '\u3000'].contains c
      || inRanges [(0x2000, 0x2006), (0x2008, 0x200A)] c then some .blank
  else if c = '\u202f' || k == .connectorPunctuation then some .extendNumLet
  else if [':', '\u00b7', '\u0387', '\u055f', '\u05f4', '\u2027', '\ufe13', '\ufe55',
      '\uff1a'].contains c then some .midLetter
  else if [',', ';', '\u037e', '\u0589', '\u060c', '\u060d', '\u066c', '\u07f8', '\u2044', '\ufe50',
      '\ufe54', '\uff0c', '\uff1b'].contains c then some .midNum
  else if ['.', '\u2018', '\u2019', '\u2024', '\ufe52', '\uff07', '\uff0e'].contains c then
    some .midNumLet
  else if script c == "Hebr" && k == .otherLetter then some .hebrewLetter
  else if script c == "Kana" || inRanges katakanaSigns c then some .katakana
  else if c == syriacAbbreviationMark || inRanges letterSigns c then some .letter
  else if k == .format && c != '\u200b' then some .format
  else if isAlphabetic c && !isIdeographic c && !unspacedScripts.contains (script c) then
    some .letter
  else none

/-- The part of a character in a sentence. -/
inductive SentenceBreak where
  | cr | lf | separator | extend | blank | lower | upper | otherLetter | numeric
  /-- Punctuation that ends a sentence: the full stop, and what leaves no doubt. -/
  | fullStop | terminal
  /-- Punctuation after which a sentence goes on. -/
  | goesOn
  | closing | format
  deriving DecidableEq, Repr

/-- Georgian letters, which have two forms without a difference of case. -/
def georgianLetters : List (Nat × Nat) :=
  [(0x10D0, 0x10FA), (0x10FD, 0x10FF), (0x1C90, 0x1CBA), (0x1CBD, 0x1CBF)]

/-- Ornaments and marks that enclose or quote, but are neither brackets nor quotation marks. -/
def closingSigns : List (Nat × Nat) :=
  [(0x275B, 0x2760), (0x2E00, 0x2E01), (0x2E06, 0x2E08), (0x2E0B, 0x2E0B), (0x1F676, 0x1F678)]

/-- Whether a character encloses what stands beside it. -/
def isClosing (c : Char) : Bool :=
  inRanges closingSigns c ||
    (isQuotationMark c && c != '\uff02' && c != '\uff07') ||
    [Category.openPunctuation, .closePunctuation, .initialPunctuation, .finalPunctuation].contains
      (category c)

def continuations : List (Nat × Nat) :=
  [(0x2C, 0x2D), (0x3A, 0x3B), (0x37E, 0x37E), (0x55D, 0x55D), (0x60C, 0x60D), (0x7F8, 0x7F8),
    (0x1802, 0x1802), (0x1808, 0x1808), (0x2013, 0x2014), (0x3001, 0x3001), (0xFE10, 0xFE11),
    (0xFE13, 0xFE14), (0xFE31, 0xFE32), (0xFE50, 0xFE51), (0xFE54, 0xFE55), (0xFE58, 0xFE58),
    (0xFE63, 0xFE63), (0xFF0C, 0xFF0D), (0xFF1A, 0xFF1B), (0xFF64, 0xFF64)]

def sentenceBreak? (c : Char) : Option SentenceBreak :=
  let k := category c
  if c = '\r' then some .cr
  else if c = '\n' then some .lf
  else if inRanges [(0x85, 0x85), (0x2028, 0x2029)] c then some .separator
  else if isGraphemeExtend c || k == .spacingMark || c = '\u200d' then some .extend
  else if isBlank c then some .blank
  else if inRanges georgianLetters c then some .otherLetter
  else if isLowercase c then some .lower
  else if isUppercase c || isTitlecase c then some .upper
  else if isNumeral c || c == '\u066c' then some .numeric
  else if isAlphabetic c || c == '\u05f3' then some .otherLetter
  else if ['.', '\u2024', '\ufe52', '\uff0e'].contains c then some .fullStop
  else if isSentenceTerminal c then some .terminal
  else if inRanges continuations c then some .goesOn
  else if isClosing c then some .closing
  else if k == .format then some .format
  else none

end Cohort.Text.Edition16
