import Cohort.Instant.Calendar

/-! Points in time, and their text in RFC 3339 form. -/
namespace Cohort

/-- Seconds since the beginning of 1970 in UTC, and nanoseconds after that second. A thousand
million nanoseconds or more stand for the leap second that follows. -/
structure Instant where
  seconds : Int
  nanos : Fin 2000000000
  deriving DecidableEq

namespace Instant

/-- The instant that lies so many nanoseconds after a second. -/
def after (seconds : Int) (nanos : Nat) : Instant := ⟨seconds, Fin.ofNat 2000000000 nanos⟩

/-- Time order: by seconds, then by nanoseconds. -/
def compare (a b : Instant) : Ordering :=
  (Ord.compare a.seconds b.seconds).then (Ord.compare a.nanos.val b.nanos.val)

/-- Midnight of a day. -/
def ofDate (date : Date) : Instant := ⟨date.toDays * 86400, 0⟩

def date (t : Instant) : Date := .ofDays (t.seconds / 86400)

/-- The instant that lies `millis` thousandths of a second after the beginning of 1970, when its
year is one that instants may have. -/
def ofMillis? (millis : Int) : Option Instant :=
  let t := after (millis / 1000) (1000000 * (millis % 1000).toNat)
  if t.date.inRange then some t else none

/-- `n` in decimal with zeros in front, at least `width` characters. -/
def padded (width n : Nat) : String :=
  let digits := toString n
  String.ofList (List.replicate (width - digits.length) '0') ++ digits

/-- A year of four digits, or with a sign and at least four digits outside 0 to 9999. -/
def yearText (year : Int) : String :=
  if 0 ≤ year ∧ year ≤ 9999 then padded 4 year.toNat
  else (if year < 0 then "-" else "+") ++ padded 4 year.natAbs

/-- Date and time of day to the second, a leap second being the sixtieth. -/
def dateTimeText (t : Instant) : String :=
  let date := t.date
  let time := (t.seconds % 86400).toNat
  let second := time % 60 + t.nanos.val / 1000000000
  yearText date.year ++ "-" ++ padded 2 date.month ++ "-" ++ padded 2 date.day ++ "T"
    ++ padded 2 (time / 3600) ++ ":" ++ padded 2 (time / 60 % 60) ++ ":" ++ padded 2 second

/-- The nanoseconds within the second, which a leap second counts anew. -/
def fraction (t : Instant) : Nat := t.nanos.val % 1000000000

/-- RFC 3339 text with milliseconds, which are cut off and not rounded. -/
def text (t : Instant) : String :=
  t.dateTimeText ++ "." ++ padded 3 (t.fraction / 1000000) ++ "Z"

/-- RFC 3339 text with as many places as the fraction needs: none, three, six or nine. -/
def detailedText (t : Instant) : String :=
  let nanos := t.fraction
  let fraction :=
    if nanos = 0 then ""
    else if nanos % 1000000 = 0 then "." ++ padded 3 (nanos / 1000000)
    else if nanos % 1000 = 0 then "." ++ padded 6 (nanos / 1000)
    else "." ++ padded 9 nanos
  t.dateTimeText ++ fraction ++ "Z"

end Instant

end Cohort
