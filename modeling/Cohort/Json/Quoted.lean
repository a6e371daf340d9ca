import Cohort.Text.Digits

/-! Strings in JSON text. -/
namespace Cohort.Json
open Cohort.Text (hexDigits)

/-- How one character stands in a quoted string: quotes, backslashes and control characters are
escaped, and nothing else is. -/
def escape (c : Char) : List Char :=
  if c = '"' then ['\\', '"']
  else if c = '\\' then ['\\', '\\']
  else if c = '\n' then ['\\', 'n']
  else if c = '\r' then ['\\', 'r']
  else if c = '\t' then ['\\', 't']
  else if c = '\x08' then ['\\', 'b']
  else if c = '\x0c' then ['\\', 'f']
  else if c.toNat < 0x20 then '\\' :: 'u' :: hexDigits 4 c.toNat
  else [c]

def quoteChars (text : List Char) : List Char := '"' :: text.flatMap escape ++ ['"']

/-- A string between double quotes. -/
def quote (text : String) : String := String.ofList (quoteChars text.toList)

end Cohort.Json
