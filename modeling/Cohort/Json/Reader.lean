import Cohort.Json.Basic
import Cohort.Number.Narrow
import Cohort.Number.Read

/-! JSON documents read from text. -/
namespace Cohort.Json
open Cohort.Text (isDigit digitsValue hexValue?)
open Cohort.Number (narrow?)
open scoped Cohort.Number.Power

/-- What a reader makes of the front of a text, and the text that follows. -/
abbrev Reader (α : Type) : Type := List Char → Option (α × List Char)

def skipBlanks (text : List Char) : List Char :=
  text.dropWhile fun c => c = ' ' || c = '\n' || c = '\t' || c = '\r'

/-- Adds digits to a number for as long as it stays below `2 ^ 64`: the number, and how many digits
were taken. -/
def accumulate (start : Nat) : List Char → Nat × Nat
  | [] => (start, 0)
  | c :: digits =>
    let next := digitsValue [c] + 10 * start
    if next < 2 ^ (64 : Nat) then
      let (value, count) := accumulate next digits
      (value, count + 1)
    else (start, 0)

/-- Scales a significand by a power of ten in double arithmetic, at most 308 powers at a time. A
result beyond the doubles is refused. -/
def scaled? : Nat → Float → Int → Option Float
  | 0, _, _ => none
  | fuel + 1, f, exponent =>
    if exponent.natAbs ≤ 308 then
      let power := Float.ofScientific 1 false exponent.natAbs
      if 0 ≤ exponent then
        let product := f * power
        if product.isInf then none else some product
      else some (f / power)
    else if f == 0.0 then some f
    else if 0 ≤ exponent then none
    else scaled? fuel (f / Float.ofScientific 1 false 308) (exponent + 308)

/-- The double of a number with a fraction, an exponent or many digits. -/
def double? (negative : Bool) (whole fraction : List Char) (exponent : Int) : Option Scalar :=
  let (significand, wholeCount) := accumulate 0 whole
  let dropped := whole.length - wholeCount
  let (significand, fractionCount) := accumulate significand fraction
  let power : Int := dropped - fractionCount + exponent
  (scaled? 4 (Float.ofNat significand) power).map fun f => .float (if negative then -f else f)

/-- An integer: a word when it fits one, and the nearest double otherwise. Zero with a minus sign
is a double. -/
def integer? (negative : Bool) (digits : List Char) : Option Scalar :=
  let n := digitsValue digits
  if n < 2 ^ (64 : Nat) then
    let value : Int := if negative then -n else n
    if negative && n == 0 then some (.float (-0.0))
    else match narrow? value with
      | some word => some (.int word)
      | none => some (.float (if negative then -Float.ofNat n else Float.ofNat n))
  else double? negative digits [] 0

/-- The power of ten after a number: its sign and its digits, if there is one. -/
def readExponent (text : List Char) : Option (Option (Bool × List Char) × List Char) :=
  match text with
  | c :: rest =>
    if c = 'e' || c = 'E' then
      let (negative, rest) := Number.splitSign rest
      let digits := rest.takeWhile isDigit
      if digits.isEmpty then none else some (some (negative, digits), rest.dropWhile isDigit)
    else some (none, text)
  | [] => some (none, [])

/-- The digits after a point, if there is one. -/
def readFraction (text : List Char) : Option (Option (List Char) × List Char) :=
  match text with
  | '.' :: rest =>
    let digits := rest.takeWhile isDigit
    if digits.isEmpty then none else some (some digits, rest.dropWhile isDigit)
  | _ => some (none, text)

/-- A number without plus sign and without zeros in front. -/
def readNumber : Reader Scalar := fun text => do
  let (negative, rest) := match text with
    | '-' :: rest => (true, rest)
    | _ => (false, text)
  let whole := rest.takeWhile isDigit
  if whole.isEmpty || (whole.head? == some '0' && whole.length ≠ 1) then none
  let (fraction, rest) ← readFraction (rest.dropWhile isDigit)
  let (exponent, rest) ← readExponent rest
  match fraction, exponent with
  | none, none => (integer? negative whole).map (·, rest)
  | _, none => (double? negative whole (fraction.getD []) 0).map (·, rest)
  | _, some (below, digits) =>
    let fraction := fraction.getD []
    let power : Int := digitsValue digits
    if power < 2 ^ (31 : Nat) then
      (double? negative whole fraction (if below then -power else power)).map (·, rest)
    else if digitsValue (whole ++ fraction) ≠ 0 && !below then none
    else some (.float (if negative then -0.0 else 0.0), rest)

/-- The character that four hexadecimal digits stand for, or two such groups that make up a
surrogate pair. -/
def readUnicode : Reader Char := fun text => do
  let high ← if (text.take 4).length = 4 then hexValue? (text.take 4) else none
  let rest := text.drop 4
  if 0xD800 ≤ high ∧ high < 0xDC00 then
    match rest with
    | '\\' :: 'u' :: rest =>
      let low ← if (rest.take 4).length = 4 then hexValue? (rest.take 4) else none
      if 0xDC00 ≤ low ∧ low < 0xE000 then
        some (Char.ofNat (0x10000 + (high - 0xD800) * 0x400 + (low - 0xDC00)), rest.drop 4)
      else none
    | _ => none
  else if 0xDC00 ≤ high ∧ high < 0xE000 then none
  else some (Char.ofNat high, rest)

/-- The character of an escape of one letter. -/
def simpleEscape? : Char → Option Char
  | '"' => some '"'
  | '\\' => some '\\'
  | '/' => some '/'
  | 'b' => some '\x08'
  | 'f' => some '\x0c'
  | 'n' => some '\n'
  | 'r' => some '\r'
  | 't' => some '\t'
  | _ => none

/-- The characters of a string up to its closing quote, which is taken too. -/
def readString : Nat → Reader (List Char)
  | 0, _ => none
  | _, [] => none
  | _, '"' :: rest => some ([], rest)
  | fuel + 1, '\\' :: 'u' :: rest => do
    let (c, rest) ← readUnicode rest
    let (cs, rest) ← readString fuel rest
    some (c :: cs, rest)
  | fuel + 1, '\\' :: c :: rest => do
    let c ← simpleEscape? c
    let (cs, rest) ← readString fuel rest
    some (c :: cs, rest)
  | fuel + 1, c :: rest =>
    if c = '\\' || c.toNat < 0x20 then none
    else (readString fuel rest).map fun (cs, rest) => (c :: cs, rest)

/-- Takes a word that has to stand at the front. -/
def readWord (word : String) (scalar : Scalar) : Reader Json := fun text =>
  if word.toList.isPrefixOf text then some (.scalar scalar, text.drop word.length) else none

/-- Arrays and objects may be nested to this depth. -/
def maxDepth : Nat := 127

mutual

/-- A value of any kind, `depth` arrays and objects deep. -/
def readValue (depth : Nat) : Nat → Reader Json
  | 0, _ => none
  | fuel + 1, text =>
    match skipBlanks text with
    | '"' :: rest => (readString (rest.length + 1) rest).map fun (cs, rest) =>
        (.scalar (.string (String.ofList cs)), rest)
    | '[' :: rest =>
      if maxDepth ≤ depth then none
      else match skipBlanks rest with
        | ']' :: rest => some (.array [], rest)
        | rest => (readItems (depth + 1) fuel rest).map fun (items, rest) => (.array items, rest)
    | '\x7b' :: rest =>
      if maxDepth ≤ depth then none
      else match skipBlanks rest with
        | '\x7d' :: rest => some (.object .nil, rest)
        | rest => (readEntries (depth + 1) fuel rest).map fun (entries, rest) =>
            (.object (.ofList entries), rest)
    | 'n' :: rest => readWord "null" .null ('n' :: rest)
    | 't' :: rest => readWord "true" (.bool true) ('t' :: rest)
    | 'f' :: rest => readWord "false" (.bool false) ('f' :: rest)
    | rest => (readNumber rest).map fun (scalar, rest) => (.scalar scalar, rest)

/-- One item or more, and the closing bracket. -/
def readItems (depth : Nat) : Nat → Reader (List Json)
  | 0, _ => none
  | fuel + 1, text => do
    let (item, rest) ← readValue depth fuel text
    match skipBlanks rest with
    | ',' :: rest => (readItems depth fuel rest).map fun (items, rest) => (item :: items, rest)
    | ']' :: rest => some ([item], rest)
    | _ => none

/-- One entry or more, and the closing brace. -/
def readEntries (depth : Nat) : Nat → Reader (List (String × Json))
  | 0, _ => none
  | fuel + 1, text =>
    match skipBlanks text with
    | '"' :: rest => do
      let (key, rest) ← readString (rest.length + 1) rest
      match skipBlanks rest with
      | ':' :: rest => do
        let (value, rest) ← readValue depth fuel rest
        let entry := (String.ofList key, value)
        match skipBlanks rest with
        | ',' :: rest => (readEntries depth fuel rest).map fun (entries, rest) =>
            (entry :: entries, rest)
        | '\x7d' :: rest => some ([entry], rest)
        | _ => none
      | _ => none
    | _ => none

end

/-- Reads one document and nothing else but blanks. -/
def ofText? (text : String) : Option Json := do
  let chars := text.toList
  let (json, rest) ← readValue 0 (chars.length + 1) chars
  if (skipBlanks rest).isEmpty then some json else none

end Cohort.Json
