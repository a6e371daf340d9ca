/-! Ranges of characters as sequences of ranges of bytes, in UTF-8. -/
namespace Cohort.Text

/-- Numbers from the first to the second. -/
abbrev Interval : Type := Nat × Nat

/-- The bytes of a code point. -/
def utf8Bytes (n : Nat) : List Nat :=
  if n ≤ 0x7F then [n]
  else if n ≤ 0x7FF then [0xC0 + n / 64, 0x80 + n % 64]
  else if n ≤ 0xFFFF then [0xE0 + n / 4096, 0x80 + n / 64 % 64, 0x80 + n % 64]
  else [0xF0 + n / 262144, 0x80 + n / 4096 % 64, 0x80 + n / 64 % 64, 0x80 + n % 64]

/-- Where a range has to be cut so that the bytes of its members vary independently of each other:
after the last code point of a length, and around blocks of 64, 64², 64³ that it does not cover. -/
def cutAfter? (low high : Nat) : Option Nat :=
  match [0x7F, 0x7FF, 0xFFFF].find? fun last => low ≤ last && last < high with
  | some last => some last
  | none =>
    if high ≤ 0x7F then none
    else [64, 4096, 262144].findSome? fun size =>
      if low / size = high / size then none
      else if low % size ≠ 0 then some (low - low % size + size - 1)
      else if high % size ≠ size - 1 then some (high - high % size - 1)
      else none

/-- The range as sequences of byte ranges: its members are the characters that have their bytes in
one of the sequences. -/
def byteSequences (low high : Nat) : List (List Interval) :=
  match cutAfter? low high with
  | none => [(utf8Bytes low).zip (utf8Bytes high)]
  | some last =>
    if _h : low ≤ last ∧ last < high then byteSequences low last ++ byteSequences (last + 1) high
    else []
termination_by high - low

/-- Puts sequences with the same beginning together, which stand side by side: each beginning with
what follows it. -/
def groupByHead : List (List Interval) → List (Interval × List (List Interval))
  | [] => []
  | [] :: rest => groupByHead rest
  | (head :: tail) :: rest =>
    match groupByHead rest with
    | [] => [(head, [tail])]
    | (other, tails) :: groups =>
      if other = head then (head, tail :: tails) :: groups
      else (head, [tail]) :: (other, tails) :: groups

end Cohort.Text
