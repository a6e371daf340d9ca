import Cohort.Text.Property.Basic

/-! Which characters have case, and which of them a change of case changes. -/
namespace Cohort.Text.Edition16

def isCased (c : Char) : Bool := isLowercase c || isUppercase c || isTitlecase c

/-- Punctuation that may stand within a word. -/
def isMidWord (c : Char) : Bool :=
  ['\x27', '.', ':', '\u00b7', '\u0387', '\u055f', '\u05f4', '\u2018', '\u2019', '\u2024',
    '\u2027', '\ufe13', '\ufe52', '\ufe55', '\uff07', '\uff0e', '\uff1a'].contains c

/-- Characters that are passed over when the case of a neighbour is asked for. -/
def isCaseIgnorable (c : Char) : Bool :=
  isMidWord c ||
    [Category.nonspacingMark, .enclosingMark, .format, .modifierLetter, .modifierSymbol].contains
      (category c)

/-- Uppercase and titlecase characters without a lowercase form. -/
def unlowered : CodeSet := .ofText "
  978 3 7469 1 4 1 3 3 2 3 2 1 3 5 6 1 3 1 3 2 2 2 1 1 10 2 5 1 111290 26 26 26 26 26 26 1 1 2 2
  1 2 2 2 4 1 8 26 26 26 2 1 4 2 8 1 7 27 2 1 4 1 5 1 1 3 7 27 26 26 26 26 26 26 26 26 26 26 26
  30 25 33 25 33 25 33 25 33 25 33 1 6501 26 6 26 6 26"

def changesWhenLowercased (c : Char) : Bool :=
  (isUppercase c || isTitlecase c) && !unlowered.contains c.toNat

/-- Lowercase and titlecase characters without an uppercase form. -/
def unraised : CodeSet := .ofText "
  170 1 15 1 125 1 84 1 28 2 14 1 3 1 98 1 18 6 27 1 2 1 1 1 2 3 2 1 4 1 5 2 1 1 2 2 1 7 1 2 1 1
  2 3 6 5 1 1 1 8 2 26 7 2 30 5 149 1 129 1 355 1 39 1 2931 1 3075 121 1 3 1 16 1 49 220 2 1 1
  465 1 13 1 16 13 109 1 3 2 3 1 27 1 4 1 4 1 2 2 8 4 2855 1 2 1 2 7 102 1 31159 2 146 2 62 9 21
  1 6 1 25 1 35 1 1 1 28 3 3 3 821 35 1 7 1 14 23574 1 2 3 1 42 1 9 52319 26 26 7 1 18 26 26 26 4
  1 1 1 7 1 11 26 26 26 26 26 26 26 26 26 26 26 26 26 26 26 26 26 28 28 25 1 6 26 25 1 6 26 25 1
  6 26 25 1 6 26 25 1 6 1 1 1844 10 1 20 6 6 261 62"

def changesWhenUppercased (c : Char) : Bool :=
  (isLowercase c || isTitlecase c) && !unraised.contains c.toNat

/-- Characters that differ either from their uppercase or from their titlecase form, but not from
both. -/
def ontoTitle : CodeSet := .ofText "
  452 2 1 2 1 2 37 2 3805 43 2 3 3720 8 8 8 8 8 12 1 15 1 47 1"

def changesWhenTitlecased (c : Char) : Bool :=
  changesWhenUppercased c != ontoTitle.contains c.toNat

/-- Characters that are folded although they have no lowercase form. -/
def foldedOnly : CodeSet := .ofText "
  181 1 41 1 105 1 53 1 453 1 124 1 13 2 3 2 25 2 3 1 401 1 3696 6 2178 9 529 2 228 8 8 8 8 8 10
  3 2 1 10 3 2 1 42 3 2 1 35704 80 20288 7 12 5"

/-- Characters that have a lowercase form but fold to themselves. -/
def isFoldTarget (c : Char) : Bool := 0x13A0 ≤ c.toNat && c.toNat ≤ 0x13F5

def changesWhenCasefolded (c : Char) : Bool :=
  foldedOnly.contains c.toNat || (changesWhenLowercased c && !isFoldTarget c)

def changesWhenCasemapped (c : Char) : Bool :=
  changesWhenLowercased c || changesWhenUppercased c || changesWhenTitlecased c

end Cohort.Text.Edition16
