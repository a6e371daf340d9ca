import Cohort.Text.CaseFold
import Cohort.Text.Property

/-! Sets of characters, put together from ranges and properties. -/
namespace Cohort.Pattern
open Cohort.Text

/-- A class of characters. -/
inductive CharSet where
  | none
  | range (low high : Char)
  | property (p : Property)
  /-- What words consist of. -/
  | word
  | union (a b : CharSet)
  | inter (a b : CharSet)
  | diff (a b : CharSet)
  | complement (a : CharSet)
  /-- Every character that differs from a member in case only, and the members. -/
  | folded (a : CharSet)

namespace CharSet

def contains : CharSet → Char → Bool
  | .none, _ => false
  | .range low high, c => low ≤ c && c ≤ high
  | .property p, c => p.holds c
  | .word, c => Edition16.isWordChar c
  | .union a b, c => a.contains c || b.contains c
  | .inter a b, c => a.contains c && b.contains c
  | .diff a b, c => a.contains c && !b.contains c
  | .complement a, c => !a.contains c
  | .folded a, c => (caseVariants c).any a.contains

/-- A code point that no member reaches. -/
def bound : CharSet → Nat
  | .none => 0
  | .range _ high => high.toNat + 1
  | .property .ascii => 128
  | .property _ | .word | .complement _ => 0x110000
  | .union a b => max a.bound b.bound
  | .inter a b => min a.bound b.bound
  | .diff a _ => a.bound
  | .folded a => if a.bound = 0 then 0 else max a.bound foldBound

def single (c : Char) : CharSet := .range c c

def any : CharSet := .property .any

def symmDiff (a b : CharSet) : CharSet := .union (.diff a b) (.diff b a)

def unionAll (sets : List CharSet) : CharSet := sets.foldl .union .none

def ofRanges (ranges : List (Char × Char)) : CharSet :=
  .unionAll (ranges.map fun range => .range range.1 range.2)

def complementIf (negated : Bool) (set : CharSet) : CharSet :=
  if negated then .complement set else set

def digit : CharSet := .property (.category .decimalNumber)
def space : CharSet := .property (.binary .whiteSpace)

def asciiDigit : CharSet := .range '0' '9'
def asciiSpace : CharSet := ofRanges [('\t', '\r'), (' ', ' ')]
def asciiWord : CharSet := ofRanges [('0', '9'), ('A', 'Z'), ('_', '_'), ('a', 'z')]

/-- The ASCII characters of a class that goes by a name. -/
def ofAsciiName? : String → Option CharSet
  | "alnum" => some (ofRanges [('0', '9'), ('A', 'Z'), ('a', 'z')])
  | "alpha" => some (ofRanges [('A', 'Z'), ('a', 'z')])
  | "ascii" => some (.range '\x00' '\x7f')
  | "blank" => some (ofRanges [('\t', '\t'), (' ', ' ')])
  | "cntrl" => some (ofRanges [('\x00', '\x1f'), ('\x7f', '\x7f')])
  | "digit" => some asciiDigit
  | "graph" => some (.range '!' '~')
  | "lower" => some (.range 'a' 'z')
  | "print" => some (.range ' ' '~')
  | "punct" => some (ofRanges [('!', '/'), (':', '@'), ('[', '\x60'), ('\x7b', '~')])
  | "space" => some asciiSpace
  | "upper" => some (.range 'A' 'Z')
  | "word" => some asciiWord
  | "xdigit" => some (ofRanges [('0', '9'), ('A', 'F'), ('a', 'f')])
  | _ => none

end CharSet

end Cohort.Pattern
