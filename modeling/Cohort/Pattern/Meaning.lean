import Cohort.Pattern.Footprint
import Cohort.Pattern.Tree

/-!
What a written pattern matches under given options. Some parts have no meaning: properties nobody
knows and, where classes know ASCII alone, whatever takes characters beyond it by a class.
-/
namespace Cohort.Pattern
open Cohort.Text

/-- The members of a set in both cases, when case is ignored. Where classes know ASCII alone, `set`
consists of ASCII characters. -/
def Flags.fold (flags : Flags) (set : CharSet) : CharSet :=
  if !flags.ignoreCase then set
  else if flags.unicode then .folded set
  else .inter (.property .ascii) (.folded set)

/-- A set in both cases if case is ignored, and then its complement if `negated`. No complement
consists of ASCII characters. -/
def Flags.foldAndNegate? (flags : Flags) (negated : Bool) (set : CharSet) : Option CharSet :=
  if negated && !flags.unicode then none else some ((flags.fold set).complementIf negated)

/-- The character of a literal. Two digits stand for a byte where classes know ASCII alone, and a
byte beyond ASCII is no character. -/
def Literal.char? (l : Literal) (flags : Flags) : Option Char :=
  if l.twoDigit && !flags.unicode && 128 ≤ l.char.toNat then none else some l.char

/-- The character of a literal in a bracketed class. -/
def Literal.member? (l : Literal) (flags : Flags) : Option Char :=
  if flags.unicode || l.char.toNat < 128 then some l.char else none

/-- A character by itself. Beyond ASCII its case counts where classes know ASCII alone. -/
def Flags.literal (flags : Flags) (c : Char) : CharSet :=
  if flags.unicode || c.toNat < 128 then flags.fold (.single c) else .single c

def Shorthand.toSet (kind : Shorthand) (unicode : Bool) : CharSet :=
  match kind with
  | .digit => if unicode then .digit else .asciiDigit
  | .space => if unicode then .space else .asciiSpace
  | .word => if unicode then .word else .asciiWord

/-- The class of a letter after a backslash; both cases of a character are in it or neither. -/
def Shorthand.toSet? (kind : Shorthand) (negated : Bool) (flags : Flags) : Option CharSet :=
  if negated && !flags.unicode then none
  else some ((kind.toSet flags.unicode).complementIf negated)

def PropertyClass.toSet? (p : PropertyClass) (flags : Flags) : Option CharSet :=
  if !flags.unicode then none
  else do
    let property ← match p.value with
      | some value => Property.ofPair? p.name value
      | none => Property.ofName? p.name
    flags.foldAndNegate? p.negated (.property property)

def SetOperation.apply (op : SetOperation) (a b : CharSet) : CharSet :=
  match op with
  | .inter => .inter a b
  | .diff => .diff a b
  | .symmDiff => .symmDiff a b

mutual

/-- The characters between brackets, before case is ignored and the whole is negated. -/
def SetTree.toSet? (flags : Flags) : SetTree → Option CharSet
  | .empty => some .none
  | .literal l => (l.member? flags).map .single
  | .range low high => do some (.range (← low.member? flags) (← high.member? flags))
  | .shorthand kind negated => kind.toSet? negated flags
  | .property p => p.toSet? flags
  | .named members negated => flags.foldAndNegate? negated members
  | .bracketed negated body => do flags.foldAndNegate? negated (← body.toSet? flags)
  | .union parts => SetTree.unionOfAll? flags parts
  | .operation op a b => do
    some (op.apply (flags.fold (← a.toSet? flags)) (flags.fold (← b.toSet? flags)))

def SetTree.unionOfAll? (flags : Flags) : List SetTree → Option CharSet
  | [] => some .none
  | part :: rest => do some (.union (← part.toSet? flags) (← SetTree.unionOfAll? flags rest))

end

/-- The dot: any character but those that end a line. -/
def Flags.dot? (flags : Flags) : Option CharSet :=
  if !flags.unicode then none
  else if flags.dotAll then some .any
  else if flags.crlf then some (.complement (.ofRanges [('\n', '\n'), ('\r', '\r')]))
  else some (.complement (.single '\n'))

def Flags.lineStart (flags : Flags) : Anchor :=
  if !flags.multiLine then .textStart else if flags.crlf then .lineStartCr else .lineStart

def Flags.lineEnd (flags : Flags) : Anchor :=
  if !flags.multiLine then .textEnd else if flags.crlf then .lineEndCr else .lineEnd

mutual

/-- The meaning of a part, and the options that hold after it. -/
def Tree.meaning? : Tree → Flags → Option (Node × Flags)
  | .empty, flags => some (.empty, flags)
  | .setFlags change, flags => some (.empty, flags.change change)
  | .literal l, flags => do some (.one (flags.literal (← l.char? flags)), flags)
  | .dot, flags => do some (.one (← flags.dot?), flags)
  | .lineStart, flags => some (.anchor flags.lineStart false, flags)
  | .lineEnd, flags => some (.anchor flags.lineEnd false, flags)
  | .anchor a, flags => some (.anchor a (!flags.unicode), flags)
  | .shorthand kind negated, flags => do some (.one (← kind.toSet? negated flags), flags)
  | .property p, flags => do some (.one (← p.toSet? flags), flags)
  | .bracketed negated body, flags => do
    some (.one (← flags.foldAndNegate? negated (← body.toSet? flags)), flags)
  | .group index change body, flags => do
    let (node, _) ← body.meaning? (flags.change change)
    some (index.elim node fun index => .group index node, flags)
  | .repetition body least most greedy, flags => do
    let (node, flags) ← body.meaning? flags
    some (.loop node least most (greedy != flags.swapGreed), flags)
  | .sequence parts, flags => do
    let (nodes, flags) ← Tree.meanings? parts flags
    some (.sequenceOf nodes, flags)
  | .alternatives parts, flags => do
    let (nodes, flags) ← Tree.meanings? parts flags
    some (.choiceOf nodes, flags)

/-- The meanings of parts from left to right; options set in one of them hold for the next. -/
def Tree.meanings? : List Tree → Flags → Option (List Node × Flags)
  | [], flags => some ([], flags)
  | part :: rest, flags => do
    let (node, flags) ← part.meaning? flags
    let (nodes, flags) ← Tree.meanings? rest flags
    some (node :: nodes, flags)

end

/-- Patterns nested deeper than this are refused. -/
def maxDepth : Nat := 250

/-- The meaning of a pattern that is neither too deep nor too large. -/
def Tree.toNode? (tree : Tree) (flags : Flags) : Option Node := do
  if maxDepth < tree.depth then none
  let (node, _) ← tree.meaning? flags
  if node.simplify.fits then some node else none

end Cohort.Pattern
