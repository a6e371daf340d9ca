import Cohort.Instant.Basic
import Cohort.Number.Narrow
import Cohort.Text.Character

/-! Instants read from text: RFC 3339, a date with a time of day, or a date alone. -/
namespace Cohort.Instant
open Cohort.Text (isDigit digitsValue isBlank)
open scoped Cohort.Number.Power

/-- A time of day; the second may be the sixtieth, a leap second. -/
structure TimeOfDay where
  hour : Nat
  minute : Nat
  second : Nat
  nanos : Nat

/-- The instant at a time of day, `offset` seconds ahead of UTC. -/
def at? (date : Date) (time : TimeOfDay) (offset : Int) : Option Instant :=
  if time.hour < 24 ∧ time.minute < 60 ∧ time.second ≤ 60 ∧ time.nanos < 1000000000
      ∧ date.inRange then
    let second := min time.second 59
    let leap := if time.second = 60 then 1000000000 else 0
    some (after (date.toDays * 86400 + (3600 * time.hour + 60 * time.minute + second : Nat) - offset)
      (time.nanos + leap))
  else none

/-- Reads at least `least` and at most `most` digits. -/
def digits? (least most : Nat) (text : List Char) : Option (Nat × List Char) :=
  let found := (text.take most).takeWhile isDigit
  if found.length < least then none
  else some (digitsValue found, text.drop found.length)

def char? (c : Char) : List Char → Option (List Char)
  | d :: rest => if d = c then some rest else none
  | [] => none

/-- A fraction of a second in nanoseconds; digits after the ninth do not count. -/
def fraction? : List Char → Option (Nat × List Char)
  | '.' :: rest => do
    let found := (rest.take 9).takeWhile isDigit
    let (n, rest') ← digits? 1 9 rest
    some (n * 10 ^ (9 - found.length), rest'.dropWhile isDigit)
  | rest => some (0, rest)

/-- An offset from UTC in seconds: `Z`, or a sign with hours and minutes. -/
def offset? : List Char → Option (Int × List Char)
  | [] => none
  | sign :: rest =>
    if sign = 'Z' ∨ sign = 'z' then some (0, rest)
    else if sign = '+' ∨ sign = '-' ∨ sign = '\u2212' then do
      let (hours, rest) ← digits? 2 2 rest
      let rest ← char? ':' rest
      let (minutes, rest) ← digits? 2 2 rest
      if 24 ≤ hours ∨ 60 ≤ minutes then none
      else
        let seconds : Int := (3600 * hours + 60 * minutes : Nat)
        some (if sign = '+' then seconds else -seconds, rest)
    else none

/-- RFC 3339: every field has its full width, and an offset follows. -/
def ofRfc3339? (text : List Char) : Option Instant := do
  let (year, rest) ← digits? 4 4 text
  let rest ← char? '-' rest
  let (month, rest) ← digits? 2 2 rest
  let rest ← char? '-' rest
  let (day, rest) ← digits? 2 2 rest
  let rest ← match rest with
    | [] => none
    | c :: rest => if c = 'T' ∨ c = 't' ∨ c = ' ' then some rest else none
  let (hour, rest) ← digits? 2 2 rest
  let rest ← char? ':' rest
  let (minute, rest) ← digits? 2 2 rest
  let rest ← char? ':' rest
  let (second, rest) ← digits? 2 2 rest
  let (nanos, rest) ← fraction? rest
  let (offset, rest) ← offset? rest
  let date ← Date.ofNumbers? year month day
  if rest.isEmpty then at? date ⟨hour, minute, second, nanos⟩ offset else none

/-- A number of one or two digits, after any blanks. -/
def short? (text : List Char) : Option (Nat × List Char) := digits? 1 2 (text.dropWhile isBlank)

/-- A year after any blanks: up to four digits, or any number of them after a sign. -/
def year? (text : List Char) : Option (Int × List Char) :=
  match text.dropWhile isBlank with
  | '-' :: rest => (digits? 1 rest.length rest).map fun (n, rest) => (-(n : Int), rest)
  | '+' :: rest => (digits? 1 rest.length rest).map fun (n, rest) => ((n : Int), rest)
  | rest => (digits? 1 4 rest).map fun (n, rest) => ((n : Int), rest)

/-- Year, month and day with hyphens between them. -/
def date? (text : List Char) : Option (Date × List Char) := do
  let (year, rest) ← year? text
  let rest ← char? '-' rest
  let (month, rest) ← short? rest
  let rest ← char? '-' rest
  let (day, rest) ← short? rest
  let date ← Date.ofNumbers? year month day
  if date.inRange then some (date, rest) else none

/-- A date and a time of day in UTC, with `T` between them and an optional fraction. -/
def ofDateTime? (text : List Char) : Option Instant := do
  let (date, rest) ← date? text
  let rest ← char? 'T' rest
  let (hour, rest) ← short? rest
  let rest ← char? ':' rest
  let (minute, rest) ← short? rest
  let rest ← char? ':' rest
  let (second, rest) ← short? rest
  let (nanos, rest) ← fraction? rest
  if rest.isEmpty then at? date ⟨hour, minute, second, nanos⟩ 0 else none

/-- A date alone, which stands for its midnight. -/
def ofDate? (text : List Char) : Option Instant := do
  let (date, rest) ← date? text
  if rest.isEmpty then some (ofDate date) else none

/-- Reads RFC 3339 text, a date with a time of day in UTC, or a date alone. -/
def ofText? (text : String) : Option Instant :=
  let chars := text.toList
  (ofRfc3339? chars).orElse fun _ => (ofDateTime? chars).orElse fun _ => ofDate? chars

end Cohort.Instant
