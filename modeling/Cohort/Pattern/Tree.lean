import Cohort.Pattern.Basic

/-! Patterns as they are written, before options give them a meaning. -/
namespace Cohort.Pattern

/-- Options that hold for a part of a pattern. -/
structure Flags where
  ignoreCase : Bool := false
  /-- `^` and `$` match at lines. -/
  multiLine : Bool := false
  /-- The dot matches a line end. -/
  dotAll : Bool := false
  /-- Repetitions are not greedy unless they say so. -/
  swapGreed : Bool := false
  /-- A carriage return ends a line, too. -/
  crlf : Bool := false
  /-- Classes know the characters of all scripts. -/
  unicode : Bool := true
  /-- Blanks and comments in the pattern mean nothing. -/
  verbose : Bool := false

/-- An option by itself. -/
inductive Flag where
  | ignoreCase | multiLine | dotAll | swapGreed | crlf | unicode | verbose
  deriving DecidableEq, Repr

/-- The option that a letter stands for. -/
def Flag.ofLetter? : Char → Option Flag
  | 'i' => some .ignoreCase
  | 'm' => some .multiLine
  | 's' => some .dotAll
  | 'U' => some .swapGreed
  | 'R' => some .crlf
  | 'u' => some .unicode
  | 'x' => some .verbose
  | _ => none

def Flags.set (flags : Flags) (flag : Flag) (value : Bool) : Flags :=
  match flag with
  | .ignoreCase => { flags with ignoreCase := value }
  | .multiLine => { flags with multiLine := value }
  | .dotAll => { flags with dotAll := value }
  | .swapGreed => { flags with swapGreed := value }
  | .crlf => { flags with crlf := value }
  | .unicode => { flags with unicode := value }
  | .verbose => { flags with verbose := value }

/-- Options that are switched on or off together. -/
abbrev FlagChange : Type := List (Flag × Bool)

def Flags.change (flags : Flags) (change : FlagChange) : Flags :=
  change.foldl (fun flags item => flags.set item.1 item.2) flags

/-- A character as written; `twoDigit` tells that it was given by two hexadecimal digits. -/
structure Literal where
  char : Char
  twoDigit : Bool := false

/-- The classes of `\d`, `\s` and `\w`. -/
inductive Shorthand where
  | digit | space | word
  deriving DecidableEq, Repr

/-- A class that is asked for by the name of a property, or by name and value. -/
structure PropertyClass where
  name : List Char
  value : Option (List Char)
  negated : Bool

/-- An operation between two parts of a bracketed class. -/
inductive SetOperation where
  | inter | diff | symmDiff
  deriving DecidableEq, Repr

/-- What stands between the brackets of a class. -/
inductive SetTree where
  | empty
  | literal (l : Literal)
  | range (low high : Literal)
  | shorthand (kind : Shorthand) (negated : Bool)
  | property (p : PropertyClass)
  /-- ASCII characters of a class with a name. -/
  | named (members : CharSet) (negated : Bool)
  | bracketed (negated : Bool) (body : SetTree)
  | union (parts : List SetTree)
  | operation (op : SetOperation) (a b : SetTree)

namespace SetTree

/-- The union of some parts; one part alone is itself. -/
def unionOf : List SetTree → SetTree
  | [] => .empty
  | [part] => part
  | parts => .union parts

mutual

/-- How deep brackets, unions and operations are nested. -/
def depth : SetTree → Nat
  | .bracketed _ body => body.depth + 1
  | .union parts => depthOfAll parts + 1
  | .operation _ a b => max a.depth b.depth + 1
  | _ => 0

def depthOfAll : List SetTree → Nat
  | [] => 0
  | part :: rest => max part.depth (depthOfAll rest)

end

end SetTree

/-- A pattern as written. -/
inductive Tree where
  | empty
  /-- Options for what follows, up to the end of the group. -/
  | setFlags (change : FlagChange)
  | literal (l : Literal)
  | dot
  /-- `^` and `$`. -/
  | lineStart | lineEnd
  | anchor (anchor : Anchor)
  | shorthand (kind : Shorthand) (negated : Bool)
  | property (p : PropertyClass)
  | bracketed (negated : Bool) (body : SetTree)
  /-- A group, with a number if it is to be remembered, and with options of its own. -/
  | group (index : Option Nat) (change : FlagChange) (body : Tree)
  | repetition (body : Tree) (least : Nat) (most : Option Nat) (greedy : Bool)
  | sequence (parts : List Tree)
  | alternatives (parts : List Tree)

namespace Tree

/-- Parts one after another; one part alone is itself. -/
def sequenceOf : List Tree → Tree
  | [] => .empty
  | [part] => part
  | parts => .sequence parts

/-- Parts to choose from; one part alone is itself. -/
def alternativesOf : List Tree → Tree
  | [] => .empty
  | [part] => part
  | parts => .alternatives parts

/-- Whether a repetition may stand behind it. -/
def repeatable : Tree → Bool
  | .empty | .setFlags _ => false
  | _ => true

mutual

/-- How deep the parts of a pattern are nested. -/
def depth : Tree → Nat
  | .bracketed _ body => body.depth + 1
  | .group _ _ body => body.depth + 1
  | .repetition body _ _ _ => body.depth + 1
  | .sequence parts => depthOfAll parts + 1
  | .alternatives parts => depthOfAll parts + 1
  | _ => 0

def depthOfAll : List Tree → Nat
  | [] => 0
  | part :: rest => max part.depth (depthOfAll rest)

end

end Tree

end Cohort.Pattern
