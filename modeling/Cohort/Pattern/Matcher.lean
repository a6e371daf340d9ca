import Cohort.Pattern.Program

/-!
Searching a text for a pattern. All ways to match are followed side by side, character by character,
in the order in which they are preferred, so the time is bounded by the product of the lengths of
text and pattern.
-/
namespace Cohort.Pattern

/-- Where groups begin and end: slot `2 * i` holds the beginning of group `i`, the next one its
end. -/
abbrev Slots : Type := Array (Option Nat)

/-- One way to go on: the next step, and the slots so far. -/
structure Thread where
  place : Nat
  slots : Slots

/-- A place between two characters of the text. -/
structure Position where
  index : Nat
  before : Option Char
  after : Option Char

def asciiWordChar (c : Char) : Bool := c.isAlphanum || c == '_'

/-- The threads that wait for a character or have arrived, together with the steps already seen at
this position, which are not followed a second time. -/
structure Frontier where
  seen : Array Bool
  waiting : List Thread

/-- Follows the steps that take no character, the preferred ones first. The threads found are put in
front of `waiting`, the least preferred first. -/
def follow (program : Array Step) (at_ : Position) : Nat → List Thread → Frontier → Frontier
  | 0, _, frontier => frontier
  | _, [], frontier => frontier
  | fuel + 1, thread :: rest, frontier =>
    if frontier.seen.getD thread.place true then follow program at_ fuel rest frontier
    else
      let frontier := { frontier with seen := frontier.seen.set! thread.place true }
      match program[thread.place]? with
      | none => follow program at_ fuel rest frontier
      | some step =>
        let next : Thread := { thread with place := thread.place + 1 }
        match step with
        | .one _ | .accept =>
          follow program at_ fuel rest { frontier with waiting := thread :: frontier.waiting }
        | .anchor a ascii =>
          let isWord := if ascii then asciiWordChar else Text.Edition16.isWordChar
          if a.holds isWord at_.before at_.after then
            follow program at_ fuel (next :: rest) frontier
          else follow program at_ fuel rest frontier
        | .save slot =>
          let slots := thread.slots.set! slot (some at_.index)
          follow program at_ fuel ({ next with slots } :: rest) frontier
        | .fork first second =>
          follow program at_ fuel
            ({ thread with place := first } :: { thread with place := second } :: rest) frontier
        | .goto place => follow program at_ fuel ({ thread with place } :: rest) frontier

/-- Takes one character with every thread that can, in order; an arrived thread ends the list, as it
is preferred to those after it. -/
def advance (program : Array Step) (c : Char) : List Thread → List Thread × Option Slots
  | [] => ([], none)
  | thread :: rest =>
    match program[thread.place]? with
    | some .accept => ([], some thread.slots)
    | some (.one set) =>
      let (threads, arrived) := advance program c rest
      if set.contains c then ({ thread with place := thread.place + 1 } :: threads, arrived)
      else (threads, arrived)
    | _ => advance program c rest

/-- The slots of the first thread that has arrived. -/
def arrived? (program : Array Step) (threads : List Thread) : Option Slots :=
  threads.findSome? fun thread =>
    match program[thread.place]? with
    | some .accept => some thread.slots
    | _ => none

/-- Goes through the rest of the text. A match found is kept until a preferred thread arrives, and
no search is begun after it. -/
def run (program : Array Step) (fresh : Slots) (index : Nat) (before : Option Char)
    (threads : List Thread) (best : Option Slots) (text : List Char) : Option Slots :=
  let here : Position := ⟨index, before, text.head?⟩
  let fuel := 2 * program.size + threads.length + 2
  let blank : Frontier := ⟨Array.replicate program.size false, []⟩
  let begun := if best.isNone then threads ++ [⟨0, fresh⟩] else threads
  let waiting := (follow program here fuel begun blank).waiting.reverse
  match text with
  | [] => (arrived? program waiting).orElse fun _ => best
  | c :: rest =>
    let (next, arrived) := advance program c waiting
    let best := arrived.orElse fun _ => best
    if next.isEmpty && best.isSome then best
    else run program fresh (index + 1) (some c) next best rest

/-- A pattern ready for searching. -/
structure Compiled where
  program : Array Step
  groups : Nat

def Node.compile (node : Node) : Compiled :=
  let node := node.simplify
  ⟨node.program, node.lastGroup + 1⟩

/-- The slots of the leftmost match that begins at `index` or later; `text` is what follows that
place and `before` the character in front of it. -/
def Compiled.search (pattern : Compiled) (index : Nat) (before : Option Char) (text : List Char) :
    Option Slots :=
  run pattern.program (Array.replicate (2 * pattern.groups) none) index before [] none text

/-- Part of a text. -/
def slice (text : List Char) (first last : Nat) : String :=
  String.ofList ((text.drop first).take (last - first))

/-- The text of a group, when it took part in the match. -/
def groupText (text : List Char) (slots : Slots) (group : Nat) : Option String :=
  match slots.getD (2 * group) none, slots.getD (2 * group + 1) none with
  | some first, some last => some (slice text first last)
  | _, _ => none

/-- The first match: the text of the whole match and of every group. -/
def Compiled.firstMatch (pattern : Compiled) (text : String) : Option (List (Option String)) :=
  let chars := text.toList
  (pattern.search 0 none chars).map fun slots =>
    (List.range pattern.groups).map (groupText chars slots)

/-- The character at the front of a text, and the text after it; a text that has ended stays so. -/
def stepPast (before : Option Char) : List Char → Option Char × List Char
  | [] => (before, [])
  | c :: rest => (some c, rest)

/-- The character in front of a later place, and the text after that place. -/
def skip : Nat → Option Char → List Char → Option Char × List Char
  | 0, before, text => (before, text)
  | count + 1, before, text =>
    let (before, text) := stepPast before text
    skip count before text

/-- The texts of all matches that do not overlap, from left to right. An empty match is not taken
where the match before it ended. -/
def allMatchesFrom (pattern : Compiled) (whole : List Char) (lastEnd : Option Nat) :
    Nat → Nat → Option Char → List Char → List String
  | 0, _, _, _ => []
  | fuel + 1, index, before, text =>
    match pattern.search index before text with
    | none => []
    | some slots =>
      match slots.getD 0 none, slots.getD 1 none with
      | some first, some last =>
        if first = last ∧ lastEnd = some last then
          match text with
          | [] => []
          | c :: rest => allMatchesFrom pattern whole lastEnd fuel (index + 1) (some c) rest
        else
          let (before', text') := skip (last - index) before text
          slice whole first last
            :: allMatchesFrom pattern whole (some last) fuel last before' text'
      | _, _ => []

def Compiled.allMatches (pattern : Compiled) (text : String) : List String :=
  let chars := text.toList
  allMatchesFrom pattern chars none (2 * chars.length + 2) 0 none chars

end Cohort.Pattern
