import Cohort.Text.Property.Basic

/-! How characters are written: direction, joining, and the marks that are put on others. -/
namespace Cohort.Text.Edition16

/-- Signs that set the direction of writing. -/
def isBidiControl (c : Char) : Bool :=
  let n := c.toNat
  n == 0x61C || (0x200E ≤ n && n ≤ 0x200F) || (0x202A ≤ n && n ≤ 0x202E)
    || (0x2066 ≤ n && n ≤ 0x2069)

/-- Characters that are mirrored where the writing goes from right to left. -/
def bidiMirrored : CodeSet := .ofText "
  40 2 18 1 1 1 28 1 1 1 29 1 1 1 45 1 15 1 3710 4 1885 2 2460 2 10 2 54 2 14 2 177 1 192 4 3 6 3
  1 3 2 3 4 1 4 1 1 1 1 4 9 5 1 1 18 5 4 9 2 1 1 1 8 1 32 2 4 5 1 9 2 2 19 5 2 9 5 2 2 4 24 2 16
  8 4 20 2 7 2 1085 14 74 1 2 4 1 2 1 3 5 4 5 3 3 14 403 22 2 6 1 14 8 1 7 6 3 1 4 5 1 2 2 5 4 1
  1 3 2 2 10 6 2 2 12 19 1 4 2 1 1 1 2 1 1 4 5 2 6 3 24 2 11 2 4 4 1 2 2 2 4 43 2 8 1 40 5 1 1 1
  3 5 5 3 4 1 3 5 1 1 256 1 515 4 3 2 1 2 14 2 2 10 43 8 427 10 2 8 52797 6 5 2 162 2 18 1 1 1 28
  1 1 1 29 1 1 1 1 2 1 2 55159 1 57 1 57 1 57 1 57 1"

def isBidiMirrored (c : Char) : Bool := bidiMirrored.contains c.toNat

/-- Signs that join, or keep from joining, the characters around them. -/
def isJoinControl (c : Char) : Bool := c == '\u200c' || c == '\u200d'

/-- Characters with a form of their own that extend none. -/
def isGraphemeBase (c : Char) : Bool :=
  let k := category c
  k.group != 'C' && k != .lineSeparator && k != .paragraphSeparator && !isGraphemeExtend c

/-- Signs that link two letters into one. -/
def graphemeLinks : CodeSet := .ofText "
  2381 1 127 1 127 1 127 1 127 1 127 1 127 1 127 1 109 2 16 1 124 1 111 1 127 1 201 1 180 2 1753
  2 30 1 157 1 653 1 227 1 101 2 70 2 4491 1 31366 1 37 1 151 1 142 1 108 1 309 1 246 1 24145 1
  1542 1 41 1 14 1 57 1 121 2 139 1 116 1 180 1 98 1 128 3 113 1 127 1 252 1 127 1 118 1 116 1
  269 1 259 2 161 1 83 1 18 1 81 1 421 1 260 2 81 1 425 2 16876 1"

def isGraphemeLink (c : Char) : Bool := graphemeLinks.contains c.toNat

/-- Marks that change the sound of another character. -/
def diacritics : CodeSet := .ofText "
  94 1 1 1 71 1 6 1 4 1 2 2 503 159 1 8 5 6 17 2 4 1 9 2 253 5 209 1 55 17 1 27 1 1 1 2 1 1 134 8
  4 2 134 2 4 2 3 3 67 27 91 11 58 11 34 2 126 8 41 10 16 28 61 1 16 1 3 4 28 1 74 1 16 1 110 1
  16 1 110 1 16 1 47 3 60 1 16 1 7 1 119 1 110 1 16 1 110 1 16 1 109 2 16 1 124 1 124 6 1 1 107 1
  13 5 75 2 27 1 1 1 1 1 4 2 66 3 1 2 62 1 112 1 1 2 40 2 4 5 25 7 1 1 10 2 705 3 948 2 179 11 9
  1 347 3 313 8 2 1 48 15 2 11 104 1 15 1 38 9 54 2 138 2 64 6 82 25 4 1 6 1 2 3 50 63 89 12 37
  11 445 1 1 3 11 3 13 3 13 3 13 2 3312 3 317 1 506 6 105 4 95 1 30066 1 12 2 1 1 28 2 82 2 14 34
  102 3 109 2 202 1 27 18 57 4 36 1 95 1 12 1 36 1 149 3 65 4 51 1 100 5 9 3 128 2 20272 1 769 16
  270 1 1 1 47 1 45 2 67 1 764 1 1183 6 1 42 1 9 810 2 571 6 38 1 26 5 399 3 70 11 49 4 192 1 41
  1 72 2 120 2 62 1 76 1 9 3 104 2 178 2 81 1 16 1 24 7 3 5 89 3 1 2 13 2 95 1 3 1 123 2 251 2
  126 1 118 2 115 1 269 2 258 2 4 1 156 1 83 1 18 1 81 1 421 1 258 1 1 2 81 1 450 1 5356 15 11481
  1 2496 5 59 7 564 2 546 17 80 2 16382 4 1 7 1 2 7937 46 2 23 544 3 3 6 8 8 2 7 30 4 3714 62 194
  7 375 1 61 4 766 2 736 7 109 3 1 3"

def isDiacritic (c : Char) : Bool := diacritics.contains c.toNat

/-- Characters that extend the length or the repetition of another. -/
def extenders : CodeSet := .ofText "
  183 1 536 2 878 1 441 1 630 1 137 1 89 1 752 1 127 1 2371 1 56 1 611 1 398 1 68 1 5001 1 43 5
  103 2 93 3 28438 1 1526 1 962 1 22 1 137 1 108 1 21 2 21627 1 2064 2 1483 1 27 1 4 1 1223 1 293
  1 116 2 498 3 1231 1 20649 2 1180 2 1 1 29016 2 1201 1 852 3"

def isExtender (c : Char) : Bool := extenders.contains c.toNat

/-- Marks that are put in front when marks are brought into order. -/
def modifierCombiningMarks : CodeSet := .ofText "
  1620 2 2 1 131 1 6 1 3 2 481 2 1 3 3 1 31 1"

def isModifierCombiningMark (c : Char) : Bool := modifierCombiningMarks.contains c.toNat

/-- Vowels that are written before the consonant they are spoken after. -/
def logicalOrderExceptions : CodeSet := .ofText "
  3648 5 123 5 2800 3 2 1 37114 2 2 1 1 2"

def isLogicalOrderException (c : Char) : Bool := logicalOrderExceptions.contains c.toNat

/-- Letters whose dot vanishes under an accent. -/
def softDotted : CodeSet := .ofText "
  105 2 196 1 281 1 30 1 52 1 20 1 320 1 98 1 1 1 6409 1 51 1 13 1 3 1 132 1 157 1 421 1 214 2
  2866 1 108453 2 50 2 50 2 50 2 50 2 50 2 50 2 50 2 50 2 50 2 50 2 50 2 50 2 2182 1 305 2 26 1"

def isSoftDotted (c : Char) : Bool := softDotted.contains c.toNat

/-- Characters that are no longer to be used. -/
def deprecatedChars : CodeSet := .ofText "
  329 1 1321 1 2307 1 1 1 2089 2 2245 6 697 2 908502 1"

def isDeprecated (c : Char) : Bool := deprecatedChars.contains c.toNat

/-- Signs that choose a variant of the character in front of them. -/
def variationSelectors : CodeSet := .ofText "
  6155 3 1 1 58864 16 852720 240"

def isVariationSelector (c : Char) : Bool := variationSelectors.contains c.toNat

/-- Ignorable characters that are neither format signs nor variation selectors. -/
def isOtherDefaultIgnorable (c : Char) : Bool :=
  isDefaultIgnorable c && category c != .format && !isVariationSelector c

/-- Alphabetic characters that are neither letters nor letter numbers. -/
def isOtherAlphabetic (c : Char) : Bool :=
  isAlphabetic c && !isLetter c && category c != .letterNumber

/-- Characters that extend others although they are not nonspacing or enclosing marks. -/
def isOtherGraphemeExtend (c : Char) : Bool :=
  isGraphemeExtend c && category c != .nonspacingMark && category c != .enclosingMark

/-- Code points that are never given to a character. -/
def isNoncharacter (c : Char) : Bool :=
  let n := c.toNat
  (0xFDD0 ≤ n && n ≤ 0xFDEF) || 0xFFFE ≤ n % 0x10000

end Cohort.Text.Edition16
