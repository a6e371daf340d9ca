import Cohort.Pattern.CharSet

/-! Search patterns: what each part of a pattern matches. -/
namespace Cohort.Pattern

/-- A condition on a place between two characters. -/
inductive Anchor where
  | textStart | textEnd
  | lineStart | lineEnd
  /-- Lines that also end at a carriage return, alone or before a line feed. -/
  | lineStartCr | lineEndCr
  | wordBoundary | notWordBoundary
  | wordStart | wordEnd
  /-- No word character before the place. -/
  | wordStartHalf
  /-- No word character after the place. -/
  | wordEndHalf
  deriving DecidableEq, Repr

/-- Whether a place satisfies an anchor, given the characters before and after it. -/
def Anchor.holds (anchor : Anchor) (isWord : Char → Bool) (before after : Option Char) : Bool :=
  let wordBefore := before.any isWord
  let wordAfter := after.any isWord
  match anchor with
  | .textStart => before.isNone
  | .textEnd => after.isNone
  | .lineStart => before.all (· == '\n')
  | .lineEnd => after.all (· == '\n')
  | .lineStartCr => before.all fun c => c == '\n' || (c == '\r' && after != some '\n')
  | .lineEndCr => after.all fun c => c == '\r' || (c == '\n' && before != some '\r')
  | .wordBoundary => wordBefore != wordAfter
  | .notWordBoundary => wordBefore == wordAfter
  | .wordStart => !wordBefore && wordAfter
  | .wordEnd => wordBefore && !wordAfter
  | .wordStartHalf => !wordBefore
  | .wordEndHalf => !wordAfter

/-- A pattern. Where several ways to match are possible the earlier alternative comes first, and a
repetition comes first with as many rounds as possible if it is greedy and with as few as possible
otherwise. -/
inductive Node where
  | empty
  | one (set : CharSet)
  /-- An anchor; its words are those of all scripts or, with `ascii`, of ASCII alone. -/
  | anchor (anchor : Anchor) (ascii : Bool)
  | group (index : Nat) (body : Node)
  | sequence (first second : Node)
  | choice (first second : Node)
  | loop (body : Node) (least : Nat) (most : Option Nat) (greedy : Bool)

namespace Node

/-- Whether a pattern can match without taking a character. -/
def nullable : Node → Bool
  | .empty | .anchor _ _ => true
  | .one _ => false
  | .group _ body => body.nullable
  | .sequence first second => first.nullable && second.nullable
  | .choice first second => first.nullable || second.nullable
  | .loop body least _ _ => least == 0 || body.nullable

/-- Whether a pattern never takes a character. -/
def neverTakes : Node → Bool
  | .empty | .anchor _ _ => true
  | .one _ => false
  | .group _ body => body.neverTakes
  | .sequence first second | .choice first second => first.neverTakes && second.neverTakes
  | .loop body _ most _ => most == some 0 || body.neverTakes

/-- The pattern with repetitions that come to nothing, or to one round, written as such. A second
round of something that takes no character changes nothing. -/
def simplify : Node → Node
  | .group index body => .group index body.simplify
  | .sequence first second => .sequence first.simplify second.simplify
  | .choice first second => .choice first.simplify second.simplify
  | .loop body least most greedy =>
    let body := body.simplify
    let (least, most) :=
      if body.neverTakes then (min least 1, some (min (most.getD 1) 1)) else (least, most)
    match least, most with
    | 0, some 0 => .empty
    | 1, some 1 => body
    | least, most => .loop body least most greedy
  | node => node

def isEmpty : Node → Bool
  | .empty => true
  | _ => false

/-- The parts one after another, without those that are empty. -/
def sequenceOf (parts : List Node) : Node :=
  go (parts.filter fun part => !part.isEmpty)
where
  go : List Node → Node
    | [] => .empty
    | [part] => part
    | part :: rest => .sequence part (go rest)

/-- A choice between parts, the first of them preferred. -/
def choiceOf : List Node → Node
  | [] => .empty
  | [part] => part
  | part :: rest => .choice part (choiceOf rest)

/-- The highest number of a group. -/
def lastGroup : Node → Nat
  | .empty | .one _ | .anchor _ _ => 0
  | .group index body => max index body.lastGroup
  | .sequence first second | .choice first second => max first.lastGroup second.lastGroup
  | .loop body _ _ _ => body.lastGroup

end Node

end Cohort.Pattern
