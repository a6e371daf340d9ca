import Cohort.Json.Writer
import Cohort.Number.Written

/-! JSON documents and their text. -/
namespace Cohort
namespace Json

/-- A leaf of a JSON document. A number is a 64-bit integer or a double. -/
inductive Scalar where
  | null
  | bool (value : Bool)
  | int (value : Int64)
  | float (value : Float)
  | string (value : String)

/-- The text of a leaf. A double that is not finite has no text of its own and is written as
`null`. -/
def Scalar.text : Scalar → String
  | .null => "null"
  | .bool value => if value then "true" else "false"
  | .int value => toString value.toInt
  | .float value => if value.isFinite then Number.Style.json.text value else "null"
  | .string value => quote value

end Json

/-- A JSON document. -/
abbrev Json : Type := Document Json.Scalar

/-- Compact JSON text. -/
def Json.text (json : Json) : String := json.compact Json.Scalar.text

/-- JSON text that is indented by two blanks for every level. -/
def Json.prettyText (json : Json) : String := json.pretty Json.Scalar.text 0

end Cohort
