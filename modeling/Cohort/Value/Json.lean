import Cohort.Json.Reader
import Cohort.Value.Basic

/-! Values to and from JSON documents. -/
namespace Cohort

/-- A double that is not finite has no JSON form and becomes null; a date becomes its text. -/
def Scalar.toJson : Scalar → Json.Scalar
  | .null => .null
  | .bool b => .bool b
  | .int n => .int n
  | .float x => if x.isFinite then .float x else .null
  | .string s => .string s
  | .date t => .string t.text

def Scalar.ofJson : Json.Scalar → Scalar
  | .null => .null
  | .bool b => .bool b
  | .int n => .int n
  | .float x => .float x
  | .string s => .string s

namespace Value

def toJson (value : Value) : Json := value.map Scalar.toJson

def ofJson (json : Json) : Value := json.map Scalar.ofJson

/-- The value a JSON text stands for. -/
def ofJsonText? (text : String) : Option Value := (Json.ofText? text).map ofJson

end Value

end Cohort
