import Cohort.Text.Property.Symbols

/-! Characters of identifiers, and of the writing with ideographs. -/
namespace Cohort.Text.Edition16

/-- Characters that may begin an identifier for the sake of older editions alone. -/
def isOtherIdStart (c : Char) : Bool :=
  ['\u1885', '\u1886', '\u2118', '\u212e', '\u309b', '\u309c'].contains c

/-- What an identifier may begin with. -/
def isIdStart (c : Char) : Bool :=
  (isLetter c || category c == .letterNumber || isOtherIdStart c)
    && !isPatternSign c && !isPatternBlank c

/-- Characters that may stand within an identifier for special reasons. -/
def otherIdContinue : CodeSet := .ofText "
  183 1 719 1 4065 9 1640 1 1585 2 4333 1 52841 1"

def isOtherIdContinue (c : Char) : Bool := otherIdContinue.contains c.toNat

/-- What an identifier may go on with. -/
def isIdContinue (c : Char) : Bool :=
  isIdStart c || isOtherIdContinue c ||
    [Category.nonspacingMark, .spacingMark, .decimalNumber, .connectorPunctuation].contains
      (category c)

/-- Characters that begin an identifier, but not in its normal form. -/
def notXidStart : CodeSet := .ofText "
  890 1 2744 1 127 1 8679 2 52161 6 406 2 116 1 1 1 1 1 1 1 1 1 1 1 1 1 1 1 287 2"

def isXidStart (c : Char) : Bool := isIdStart c && !notXidStart.contains c.toNat

/-- Characters that continue an identifier, but not in its normal form. -/
def notXidContinue : CodeSet := .ofText "
  890 1 11552 2 52161 6 406 2 116 1 1 1 1 1 1 1 1 1 1 1 1 1 1 1"

def isXidContinue (c : Char) : Bool := isIdContinue c && !notXidContinue.contains c.toNat

/-- Mathematical signs that an identifier may begin with. -/
def idCompatMathStart : CodeSet := .ofText "
  8706 1 4 1 22 1 111778 1 25 1 31 1 25 1 31 1 25 1 31 1 25 1 31 1 25 1"

def isIdCompatMathStart (c : Char) : Bool := idCompatMathStart.contains c.toNat

/-- Mathematical signs that an identifier may go on with. -/
def idCompatMathContinue : CodeSet := .ofText "
  178 2 5 1 8118 1 3 11 1 15 371 1 4 1 22 1 111778 1 25 1 31 1 25 1 31 1 25 1 31 1 25 1 31 1 25 1"

def isIdCompatMathContinue (c : Char) : Bool := idCompatMathContinue.contains c.toNat

/-- Characters that stand for a thing or a word. -/
def ideographs : CodeSet := .ofText "
  12294 2 25 9 14 3 965 6592 64 20992 22784 366 2 106 29962 1 27 6136 8 1238 41 10 9319 396 19716
  42720 32 4154 6 222 2 5762 14 7473 15 622 2466 542 1506 4939 5 4192"

def isIdeographic (c : Char) : Bool := ideographs.contains c.toNat

/-- Ideographs that the writings of East Asia share. -/
def unifiedIdeographs : CodeSet := .ofText "
  13312 6592 64 20992 23054 2 1 1 1 2 10 1 1 1 1 2 2 3 67030 42720 32 4154 6 222 2 5762 14 7473
  15 622 4514 4939 5 4192"

def isUnifiedIdeograph (c : Char) : Bool := unifiedIdeographs.contains c.toNat

/-- Parts of ideographs that dictionaries are ordered by. -/
def radicals : CodeSet := .ofText "
  11904 26 1 89 12 214"

def isRadical (c : Char) : Bool := radicals.contains c.toNat

/-- Signs that tell how an ideograph is composed of two parts. -/
def isIdsBinaryOperator (c : Char) : Bool :=
  let n := c.toNat
  (0x2FF0 ≤ n && n ≤ 0x2FF1) || (0x2FF4 ≤ n && n ≤ 0x2FFD) || n == 0x31EF

/-- Signs that tell how an ideograph is composed of three parts. -/
def isIdsTrinaryOperator (c : Char) : Bool := 0x2FF2 ≤ c.toNat && c.toNat ≤ 0x2FF3

/-- Signs that tell how one part of an ideograph is changed. -/
def isIdsUnaryOperator (c : Char) : Bool := 0x2FFE ≤ c.toNat && c.toNat ≤ 0x2FFF

end Cohort.Text.Edition16
