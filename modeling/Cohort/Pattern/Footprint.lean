import Cohort.Number.Narrow
import Cohort.Pattern.Basic
import Cohort.Text.Utf8

/-!
How much memory two machines take that run a pattern over the bytes of a text, one of them forwards
and one of them backwards. A pattern is refused when one of them is too large.
-/
namespace Cohort.Pattern
open Cohort.Text
open scoped Cohort.Number.Power

/-- The bytes that the machines take. -/
structure Footprint where
  forward : Nat
  backward : Nat
  deriving DecidableEq, Repr

namespace Footprint

/-- The same for both machines. -/
def both (bytes : Nat) : Footprint := ⟨bytes, bytes⟩

instance : Add Footprint := ⟨fun a b => ⟨a.forward + b.forward, a.backward + b.backward⟩⟩

def times (count : Nat) (a : Footprint) : Footprint := ⟨count * a.forward, count * a.backward⟩

/-- So many states. -/
def states (count : Nat) : Footprint := both (32 * count)

/-- A state with some ranges of bytes, each of which leads to another state. -/
def branching (ranges : Nat) : Nat := 32 + 8 * ranges

/-- One way out of a state that has several, none of which takes a byte. -/
def wayOut : Footprint := both 4

/-- A state with two ways out. -/
def fork : Footprint := states 1 + wayOut + wayOut

def total (counts : List Nat) : Nat := counts.foldr (· + ·) 0

/-- The remainders of some sequences after each of their bytes, the sequences among them. -/
def remainders : Nat → List (List Interval) → List (List (List Interval))
  | 0, _ => []
  | bytes + 1, sequences =>
    match groupByHead sequences with
    | [] => []
    | groups => sequences :: groups.flatMap fun group => remainders bytes group.2

/-- The machines for one of some sequences. Forwards, equal remainders share a state. Backwards,
equal beginnings do, and every sequence is entered on its own. -/
def ofSequences (sequences : List (List Interval)) : Footprint :=
  let all := remainders 4 sequences
  let ranges (remainder : List (List Interval)) : Nat := (groupByHead remainder).length
  ⟨32 + total (all.eraseDups.map fun remainder => branching (ranges remainder)),
    64 + 32 * total (all.map ranges) + 4 * sequences.length⟩

/-- The machines for one character of some intervals: its bytes if there is but one, and one state
if all of them are ASCII. -/
def ofIntervals (intervals : List Interval) : Footprint :=
  match intervals with
  | [(low, high)] =>
    if low = high then states (utf8Bytes low).length
    else if high < 128 then both (32 + branching 1)
    else ofSequences (byteSequences low high)
  | intervals =>
    if intervals.all fun interval => interval.2 < 128 then
      both (32 + branching intervals.length)
    else ofSequences (intervals.flatMap fun interval => byteSequences interval.1 interval.2)

end Footprint

/-- The members of a set below `n` as intervals, put in front of those `found`; `last` is the end of
an interval that goes on below `n`. -/
def intervalsBelow (isMember : Nat → Bool) : Nat → Option Nat → List Interval → List Interval
  | 0, none, found => found
  | 0, some last, found => (0, last) :: found
  | n + 1, last, found =>
    if isMember n then intervalsBelow isMember n (some (last.getD n)) found
    else match last with
      | none => intervalsBelow isMember n none found
      | some last => intervalsBelow isMember n none ((n + 1, last) :: found)

/-- The members of a set as intervals of code points. -/
def CharSet.intervals (set : CharSet) : List Interval :=
  intervalsBelow (fun n => !(0xD800 ≤ n && n ≤ 0xDFFF) && set.contains (Char.ofNat n)) set.bound
    Option.none []

def CharSet.footprint (set : CharSet) : Footprint := .ofIntervals set.intervals

/-- More than the machines for a set take, without a look at its members. -/
def CharSet.roughFootprint : CharSet → Footprint
  | .range _ high => .both (if high.toNat < 128 then 72 else 4000)
  | set => .both (if set.bound ≤ 128 then 600 else 100000)

namespace Node

/-- The set of a choice between single characters. -/
def oneOf? : Node → Option CharSet
  | .one set => some set
  | .choice first second => do some (.union (← first.oneOf?) (← second.oneOf?))
  | _ => none

/-- The machines for a pattern. `ofSet` tells what a set takes, and `inChoice` whether the pattern
is an alternative of a choice, which is entered by one state for all of them. -/
def footprint (ofSet : CharSet → Footprint) (inChoice : Bool) (node : Node) : Footprint :=
  let entry : Footprint := if inChoice then .wayOut else .both 0
  match node with
  | .empty | .anchor _ _ => entry + .states 1
  | .one set => entry + ofSet set
  | .group _ body => entry + ⟨64, 0⟩ + body.footprint ofSet false
  | .sequence first second =>
    entry + first.footprint ofSet false + second.footprint ofSet false
  | .choice first second =>
    match (if inChoice then none else oneOf? (.choice first second)) with
    | some set => ofSet set
    | none =>
      (if inChoice then .both 0 else .states 2) + first.footprint ofSet true
        + second.footprint ofSet true
  | .loop body least most _ =>
    let round := body.footprint ofSet false
    entry + match least, most with
    | 0, some 1 => .fork + .states 1 + round
    | 0, none => if body.nullable then .fork + .fork + .states 1 + round else .fork + round
    | least, none => .times least round + .fork
    | least, some most =>
      if least = most then .times least round
      else
        (if least = 0 then .states 1 else .times least round) + .states 1
          + .times (most - least) (.fork + round)

/-- What the machines take apart from the pattern: they begin at any place, and one of them marks
the whole match. -/
def frame : Footprint := ⟨208, 144⟩

/-- The greatest machine that is built. -/
def maxFootprint : Nat := 10 * 2 ^ (20 : Nat)

def fitsWith (node : Node) (ofSet : CharSet → Footprint) : Bool :=
  let total := frame + node.footprint ofSet false
  total.forward ≤ maxFootprint && total.backward ≤ maxFootprint

/-- Whether both machines for a pattern are small enough. -/
def fits (node : Node) : Bool :=
  node.fitsWith CharSet.roughFootprint || node.fitsWith CharSet.footprint

end Node

end Cohort.Pattern
