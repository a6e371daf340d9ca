import Cohort.Json.Writer
import Cohort.Number.Narrow
import Cohort.Value.Basic

/-! The canonical text of a value, from which its hash is taken. -/
namespace Cohort
open Cohort.Json (quote)
open scoped Cohort.Number.Power

/-- A whole number below `2 ^ 53` has the text of the integer, so that it does not matter how it is
held; what is not finite is `null`. -/
def canonicalFloat (x : Float) : String :=
  if !x.isFinite then "null"
  else
    match Number.whole? x with
    | some n =>
      if n.natAbs < 2 ^ (53 : Nat) then toString n else Number.Style.canonical.text x
    | none => Number.Style.canonical.text x

def Scalar.canonical : Scalar → String
  | .null => "null"
  | .bool b => if b then "true" else "false"
  | .int n => toString n.toInt
  | .float x => canonicalFloat x
  | .string s => quote s
  | .date t => quote t.text

/-- JSON text without blanks, the entries of objects in the order of their keys. -/
def Value.canonical (value : Value) : String := value.compact Scalar.canonical

end Cohort
