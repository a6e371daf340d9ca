import Cohort.Text.Digits

/-! Sorted tables over code points, written as runs and searched by bisection. -/
namespace Cohort.Text

/-- How many entries of `sorted` are at most `n`; the answer lies between `low` and `high`. -/
def rankBetween (sorted : Array Nat) (n low high : Nat) : Nat :=
  if _h : low < high then
    let middle := (low + high) / 2
    if sorted.getD middle 0 ≤ n then rankBetween sorted n (middle + 1) high
    else rankBetween sorted n low middle
  else low
termination_by high - low

/-- How many entries of an increasing array are at most `n`. -/
def rank (sorted : Array Nat) (n : Nat) : Nat := rankBetween sorted n 0 sorted.size

/-- The words of a text that is written with spaces and line ends between them. -/
def words (text : String) : List String :=
  let close (word : List Char) (rest : List String) : List String :=
    if word.isEmpty then rest else String.ofList word :: rest
  let (word, rest) := text.toList.foldr
    (fun c (word, rest) =>
      if c == ' ' || c == '\n' then ([], close word rest) else (c :: word, rest))
    (([] : List Char), ([] : List String))
  close word rest

/-- Partial sums of the lengths, each the place where one run ends and the next begins. -/
def boundaries (lengths : List Nat) : Array Nat :=
  (lengths.foldl (fun (sum, ends) length => (sum + length, ends.push (sum + length)))
    (0, (#[] : Array Nat))).2

/-- A set of code points, held as the increasing places where membership changes. -/
structure CodeSet where
  changes : Array Nat

/-- Reads the lengths of the gaps and runs in turn, beginning with the gap before the first run. -/
def CodeSet.ofText (text : String) : CodeSet :=
  ⟨boundaries ((words text).map fun word => digitsValue word.toList)⟩

/-- A code point is a member when an odd number of changes lie at or before it. -/
def CodeSet.contains (set : CodeSet) (n : Nat) : Bool := rank set.changes n % 2 == 1

/-- Runs of code points with one value each: the increasing places where runs end, and the
values. -/
structure RunTable (α : Type) where
  ends : Array Nat
  values : Array α

/-- Reads runs, each written as a mark without digits and a length; `value` tells what a mark stands
for. -/
def RunTable.ofText {α : Type} (value : String → α) (text : String) : RunTable α :=
  let runs := (words text).map fun word => word.toList.span fun c => !isDigit c
  ⟨boundaries (runs.map fun run => digitsValue run.2),
    (runs.map fun run => value (String.ofList run.1)).toArray⟩

/-- The value of the run that a code point lies in, or `other` after the last run. -/
def RunTable.get {α : Type} (table : RunTable α) (n : Nat) (other : α) : α :=
  table.values.getD (rank table.ends n) other

end Cohort.Text
