import Cohort.Text.Quoted
import Cohort.Value.Basic

/-! Values as text. -/
namespace Cohort
open Cohort.Text (quoted)

/-- A scalar with its kind. -/
def Scalar.detailedText : Scalar → String
  | .null => "Null"
  | .bool b => "Boolean(" ++ (if b then "true" else "false") ++ ")"
  | .int n => "Integer(" ++ toString n.toInt ++ ")"
  | .float x => "Float(" ++ Number.Style.detailed.text x ++ ")"
  | .string s => "String(" ++ quoted s ++ ")"
  | .date t => "Date(" ++ t.detailedText ++ ")"

namespace Value

mutual

/-- A value with the kinds of all its parts. -/
def detailedText : Document Scalar → String
  | .scalar s => s.detailedText
  | .array items => "Array([" ++ ", ".intercalate (detailedItems items) ++ "])"
  | .object fields => "Object(\x7b" ++ ", ".intercalate (detailedEntries fields) ++ "\x7d)"

def detailedItems : List (Document Scalar) → List String
  | [] => []
  | item :: items => detailedText item :: detailedItems items

def detailedEntries : {floor : Option String} → Fields Scalar floor → List String
  | _, .nil => []
  | _, .cons key _ value rest => (quoted key ++ ": " ++ detailedText value) :: detailedEntries rest

end

/-- The text of a value: that of a scalar, and a collection with the kinds of its parts. -/
def text : Value → String
  | .scalar s => s.text
  | value => detailedText value

end Value

end Cohort
