import Cohort.Document.Basic
import Cohort.Json.Quoted

/-! JSON text of a document, given the text of its scalars. -/
namespace Cohort
open Cohort.Json (quote)

variable {α : Type} {floor : Option String}

mutual

/-- JSON text without blanks; the entries of objects stand in the order of their keys. -/
def Document.compact (scalar : α → String) : Document α → String
  | .scalar value => scalar value
  | .array items => "[" ++ ",".intercalate (Document.compactItems scalar items) ++ "]"
  | .object fields => "\x7b" ++ ",".intercalate (fields.compactEntries scalar) ++ "\x7d"

def Document.compactItems (scalar : α → String) : List (Document α) → List String
  | [] => []
  | item :: items => item.compact scalar :: Document.compactItems scalar items

def Fields.compactEntries (scalar : α → String) :
    {floor : Option String} → Fields α floor → List String
  | _, .nil => []
  | _, .cons key _ value rest =>
    (quote key ++ ":" ++ value.compact scalar) :: rest.compactEntries scalar

end

/-- A line end and two blanks for every level of nesting. -/
def lineBreak (depth : Nat) : String := "\n" ++ String.ofList (List.replicate (2 * depth) ' ')

/-- Entries on lines of their own between two brackets, or the brackets alone. -/
def bracketed (depth : Nat) (opening closing : String) (entries : List String) : String :=
  if entries.isEmpty then opening ++ closing
  else
    opening ++ lineBreak (depth + 1) ++ ("," ++ lineBreak (depth + 1)).intercalate entries
      ++ lineBreak depth ++ closing

mutual

/-- JSON text with every item and entry on a line of its own. -/
def Document.pretty (scalar : α → String) (depth : Nat) : Document α → String
  | .scalar value => scalar value
  | .array items => bracketed depth "[" "]" (Document.prettyItems scalar (depth + 1) items)
  | .object fields => bracketed depth "\x7b" "\x7d" (fields.prettyEntries scalar (depth + 1))

def Document.prettyItems (scalar : α → String) (depth : Nat) : List (Document α) → List String
  | [] => []
  | item :: items => item.pretty scalar depth :: Document.prettyItems scalar depth items

def Fields.prettyEntries (scalar : α → String) (depth : Nat) :
    {floor : Option String} → Fields α floor → List String
  | _, .nil => []
  | _, .cons key _ value rest =>
    (quote key ++ ": " ++ value.pretty scalar depth) :: rest.prettyEntries scalar depth

end

end Cohort
