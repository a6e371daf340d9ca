import Cohort.Text.Property.Basic

/-! Punctuation, mathematical signs and pictures. -/
namespace Cohort.Text.Edition16

/-- Dashes of all lengths. -/
def dashes : CodeSet := .ofText "
  45 1 1372 1 51 1 3649 1 1029 1 2057 6 61 1 39 1 15 1 390 1 3076 1 2 1 31 2 4 1 28 1 446 1 19 1
  111 1 52624 2 37 1 10 1 169 1 3680 1 318 1"

def isDash (c : Char) : Bool := dashes.contains c.toNat

/-- Dashes that mark the parting or joining of words. -/
def hyphens : CodeSet := .ofText "
  45 1 127 1 1244 1 4731 1 2057 2 3589 1 739 1 52583 1 169 1 87 1"

def isHyphen (c : Char) : Bool := hyphens.contains c.toNat

/-- Signs that enclose quoted words. -/
def quotationMarks : CodeSet := .ofText "
  34 1 4 1 131 1 15 1 8028 8 25 2 3591 1 457 4 13 3 52769 4 189 1 4 1 90 2"

def isQuotationMark (c : Char) : Bool := quotationMarks.contains c.toNat

/-- Punctuation that ends a part of a text. -/
def terminalPunctuation : CodeSet := .ofText "
  33 1 10 1 1 1 11 2 3 1 830 1 8 1 513 1 57 1 72 1 14 1 1 3 180 1 43 11 1 1 235 2 54 6 1 8 31 1
  261 2 1268 2 172 1 4 6 311 2 789 8 773 1 124 3 71 2 157 3 3 1 39 4 2 2 314 2 354 4 162 2 10 2 1
  3 29 3 187 5 62 2 932 1 23 2 9 3 3247 3 306 1 13 1 4 1 10 1 1 2 3 2 428 2 29947 2 269 3 227 5
  382 2 86 2 95 1 151 3 147 3 127 1 16 2 249 1 21030 1 2 2 57 3 1 4 169 1 10 1 1 1 11 2 3 1 65 1
  2 1 1082 1 48 1 1158 1 199 1 310 2 152 6 68 6 89 4 952 5 44 4 189 7 112 4 127 3 129 2 6 1 16 2
  88 5 108 1 298 2 117 3 12 2 358 4 3 15 105 2 249 3 517 1 1 1 251 2 87 2 4 2 414 3 45 1 645 2 74
  2 1323 5 17913 2 133 1 65 3 10 1 553 2 295 2 19974 1 7655 4"

def isTerminalPunctuation (c : Char) : Bool := terminalPunctuation.contains c.toNat

/-- Punctuation that ends a sentence. -/
def sentenceTerminals : CodeSet := .ofText "
  33 1 12 1 16 1 1353 1 147 3 180 1 43 3 246 1 61 1 1 1 3 2 293 2 1764 2 790 1 4 2 773 1 198 2
  157 2 45 1 5 1 314 2 354 4 162 2 10 2 2 2 29 3 187 2 65 2 932 1 23 2 9 3 3247 3 306 1 13 1 22 2
  429 1 29948 1 270 2 227 1 3 1 382 2 86 2 95 1 152 2 147 3 144 2 249 1 21030 1 2 2 59 1 3 2 169
  1 12 1 16 1 65 1 2804 2 1277 5 44 4 189 2 117 4 127 3 129 2 6 1 16 2 88 2 1 2 108 1 298 2 117 2
  373 2 5 15 105 2 249 3 517 1 1 1 251 2 87 2 420 2 692 2 74 2 19241 2 133 1 65 2 11 1 553 2 296
  1 19974 1 7656 1"

def isSentenceTerminal (c : Char) : Bool := sentenceTerminals.contains c.toNat

/-- Characters set aside for the notation of patterns. -/
def patternSigns : CodeSet := .ofText "
  33 15 10 7 26 4 1 1 26 4 34 7 1 1 1 2 1 1 1 2 4 1 4 1 3 1 23 1 31 1 7960 24 8 15 2 19 1 10 305
  720 160 630 30 1132 512 128 385 3 4 25 15 1 52493 2 261 2"

def isPatternSign (c : Char) : Bool := patternSigns.contains c.toNat

/-- Blanks in the notation of patterns. -/
def isPatternBlank (c : Char) : Bool :=
  let n := c.toNat
  (9 ≤ n && n ≤ 13) || n == 0x20 || n == 0x85 || (0x200E ≤ n && n ≤ 0x200F)
    || (0x2028 ≤ n && n ≤ 0x2029)

/-- Characters of mathematics that are not mathematical symbols. -/
def otherMath : CodeSet := .ofText "
  94 1 881 3 2 1 26 2 2 2 7200 1 27 3 11 1 32 4 24 2 14 2 65 13 4 1 3 2 4 5 18 1 4 1 2 10 1 1 3 5
  6 1 3 2 2 2 1 3 1 6 3 4 5 5 75 5 2 4 1 2 1 2 1 1 1 5 2 2 4 2 4 18 2 2 1 1 1 7 1 1 6 2 290 4 168
  2 1 1 24 1 17 1 445 2 12 9 5 5 5 2 2 2 3 5 14 1 1 1 2 6 24 2 57 1 1 1 29 4 9 2 342 2 31 10 403
  22 63 4 32 2 54371 1 1 1 4 1 211 1 1 1 54465 85 1 71 1 2 2 1 2 2 2 4 1 12 1 1 1 7 1 65 1 4 2 8
  1 7 1 28 1 4 1 5 1 1 3 7 1 340 2 25 1 25 1 31 1 25 1 31 1 25 1 31 1 25 1 31 1 25 1 8 2 50 5632
  4 1 27 1 2 1 1 2 1 1 10 1 4 1 1 1 1 6 1 4 1 1 1 1 1 1 3 1 2 1 1 2 1 1 1 1 1 1 1 1 1 1 2 1 1 2 4
  1 7 1 4 1 4 1 1 1 10 1 17 5 3 1 5 1 17"

def isOtherMath (c : Char) : Bool := otherMath.contains c.toNat

def isMath (c : Char) : Bool := category c == .mathSymbol || isOtherMath c

def isHexDigit (c : Char) : Bool :=
  let n := c.toNat
  (hexDigit? c).isSome || (0xFF10 ≤ n && n ≤ 0xFF19) || (0xFF21 ≤ n && n ≤ 0xFF26)
    || (0xFF41 ≤ n && n ≤ 0xFF46)

/-- Characters that can be shown as pictures. -/
def emoji : CodeSet := .ofText "
  35 1 6 1 5 10 111 1 4 1 8077 1 12 1 216 1 22 1 90 6 15 2 367 2 12 1 166 1 25 11 4 3 199 1 231 2
  10 1 9 1 58 4 1 5 9 1 2 1 2 2 2 1 4 1 2 1 1 2 2 1 3 1 3 2 8 3 5 1 1 1 5 12 11 2 2 1 1 2 1 1 18
  1 2 2 18 6 1 1 1 2 3 2 5 1 2 2 4 2 11 2 5 2 2 1 5 2 1 1 1 2 20 2 5 6 1 4 2 1 4 1 2 1 2 6 1 1 2
  1 1 1 1 1 6 1 3 1 6 1 10 2 15 1 2 1 4 1 1 1 4 3 1 1 11 2 48 3 9 1 14 1 14 1 372 2 463 3 19 2 51
  1 4 1 1242 1 12 1 601 1 1 1 114026 1 202 1 160 2 12 2 14 1 2 10 75 26 1 2 23 1 20 1 2 9 21 2
  174 34 2 112 2 2 1 3 2 83 2 3 1 263 1 63 11 6 1 24 7 2 2 8 12 1 2 4 2 1 4 2 13 2 2 1 8 2 9 1 5
  3 12 3 8 3 2 1 1 1 4 1 6 1 3 1 6 86 48 70 5 8 2 3 4 10 3 1 1 2 3 1 2 10 227 12 4 1 283 47 1 10
  1 185 112 13 3 10 5 56 7 15 2 11 6 9"

def isEmoji (c : Char) : Bool := emoji.contains c.toNat

/-- Characters that are shown as pictures unless a sign says otherwise. -/
def emojiPresentation : CodeSet := .ofText "
  8986 2 205 4 3 1 2 1 521 2 21 2 50 12 43 1 19 1 13 1 8 2 17 2 5 2 8 1 5 1 21 1 7 2 1 1 4 1 2 1
  7 1 4 2 28 1 35 1 1 1 4 3 1 1 61 3 24 1 14 1 859 2 51 1 4 1 115886 1 202 1 190 1 2 10 75 26 1 1
  24 1 20 1 2 5 1 3 21 2 174 33 12 9 1 70 1 22 12 43 4 5 12 17 3 1 3 71 1 1 1 187 2 63 13 4 1 24
  18 1 26 2 13 1 86 85 48 70 6 1 3 3 2 3 4 4 11 2 7 9 227 12 4 1 283 47 1 10 1 185 112 13 3 10 5
  56 7 15 2 11 6 9"

def isEmojiPresentation (c : Char) : Bool := emojiPresentation.contains c.toNat

/-- Pictures of people whose colour of skin can be set. -/
def emojiModifierBases : CodeSet := .ofText "
  9757 1 219 1 16 4 117879 1 60 3 2 1 2 3 117 2 2 11 21 19 3 1 4 3 1 3 7 1 1 1 24 1 201 2 4 1 21
  1 4 2 174 3 3 5 83 1 16 3 9 1 11 1 575 1 2 1 8 8 6 1 9 10 2 3 56 1 61 2 1 2 1 1 17 3 1 13 229 3
  42 9"

def isEmojiModifierBase (c : Char) : Bool := emojiModifierBases.contains c.toNat

/-- Characters that pictures are put together from. -/
def emojiComponents : CodeSet := .ofText "
  35 1 6 1 5 10 8147 1 213 1 56619 1 62422 26 507 5 1456 4 788076 96"

def isEmojiComponent (c : Char) : Bool := emojiComponents.contains c.toNat

/-- Pictures, and code points kept for pictures to come. -/
def extendedPictographic : CodeSet := .ofText "
  169 1 4 1 8077 1 12 1 216 1 22 1 90 6 15 2 367 2 12 1 95 1 70 1 25 11 4 3 199 1 231 2 10 1 9 1
  58 4 1 6 1 12 1 114 10 118 2 11 1 1 1 1 6 1 3 1 6 1 10 2 15 1 2 1 4 1 1 1 4 3 1 1 11 5 45 3 9 1
  14 1 14 1 372 2 463 3 19 2 51 1 4 1 1242 1 12 1 601 1 1 1 114022 256 13 3 31 1 60 6 12 2 14 1 2
  10 18 57 27 15 10 1 20 1 2 9 1 4 9 434 5 318 8 266 48 128 116 12 85 43 12 4 56 8 10 6 40 8 30
  82 12 47 1 10 1 441 256 1022"

def isExtendedPictographic (c : Char) : Bool := extendedPictographic.contains c.toNat

end Cohort.Text.Edition16
