import Cohort.Text.Age
import Cohort.Text.Character

/-!
Characters as edition 16.0 of the character data describes them. What later editions brought in is
unassigned here.
-/
namespace Cohort.Text.Edition16

/-- Whether the edition has a character for this code point. -/
def isKnown (c : Char) : Bool := (age c).isSome

/-- The general category of a character. One letter, U+0295, is a letter without case in later
editions. -/
def category (c : Char) : Category :=
  if c == '\u0295' then .lowercaseLetter
  else if isKnown c then Text.category c
  else .unassigned

def isAlphabetic (c : Char) : Bool := isKnown c && Text.isAlphabetic c

def isGraphemeExtend (c : Char) : Bool := isKnown c && Text.isGraphemeExtend c

def isMark (c : Char) : Bool := (category c).group == 'M'

def isLetter (c : Char) : Bool := (category c).group == 'L'

/-- Lowercase characters that are not lowercase letters. -/
def otherLowercase : CodeSet := .ofText "
  170 1 15 1 501 9 7 2 30 5 96 1 52 1 3457 1 3119 63 13 1 34 37 689 1 13 1 16 13 211 16 848 26
  1938 2 31262 2 210 1 129 3 3 2 866 4 9 1 23574 1 2 3 1 42 1 9 55413 62"

def isLowercase (c : Char) : Bool :=
  category c == .lowercaseLetter || otherLowercase.contains c.toNat

/-- Uppercase characters that are not uppercase letters. -/
def otherUppercase : CodeSet := .ofText "
  8544 16 838 26 117856 26 6 26 6 26"

def isUppercase (c : Char) : Bool :=
  category c == .uppercaseLetter || otherUppercase.contains c.toNat

def isTitlecase (c : Char) : Bool := category c == .titlecaseLetter

/-- Signs that stand in front of a number and enclose it. -/
def prependedConcatenationMarks : CodeSet := .ofText "
  1536 6 215 1 49 1 384 2 80 1 67546 1 15 1"

def isPrependedConcatenationMark (c : Char) : Bool := prependedConcatenationMarks.contains c.toNat

/-- Characters that are not shown where they are not supported. -/
def defaultIgnorables : CodeSet := .ofText "
  173 1 673 1 716 1 2882 2 1619 2 85 5 2043 5 26 5 49 16 4340 1 52379 16 239 1 160 1 79 9 48295 4
  5327 8 798341 4096"

def isDefaultIgnorable (c : Char) : Bool := defaultIgnorables.contains c.toNat

/-- Colours of skin in pictures. -/
def isEmojiModifier (c : Char) : Bool := 0x1F3FB ≤ c.toNat && c.toNat ≤ 0x1F3FF

/-- Letters that make up flags in pairs. -/
def isRegionalIndicator (c : Char) : Bool := 0x1F1E6 ≤ c.toNat && c.toNat ≤ 0x1F1FF

/-- What words consist of: letters, marks, decimal digits, connectors and joiners. -/
def isWordChar (c : Char) : Bool :=
  isAlphabetic c || isMark c || category c == .decimalNumber
    || category c == .connectorPunctuation || c == '\u200c' || c == '\u200d'

end Cohort.Text.Edition16
