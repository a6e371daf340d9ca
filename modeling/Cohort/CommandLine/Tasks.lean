import Cohort.Expr.Eval
import Cohort.Grammar.Standard
import Cohort.Value.Json

/-! What the command line can be asked to do, on texts. -/
namespace Cohort.CommandLine

/-- Why a task was not done. -/
inductive Failure where
  | expression (fault : Error)
  | range (fault : RangeError)
  | json

def Failure.message : Failure → String
  | .expression fault => fault.message
  | .range fault => "Range error: " ++ fault.message
  | .json => "Invalid JSON: not a JSON document"

/-- What a check found: that the expression is well formed, or what it evaluates to. -/
inductive CheckResult where
  | wellFormed
  | value (json : Json)

/-- Reads a JSON text as a value. -/
def readJson (text : String) : Except Failure Value :=
  match Value.ofJsonText? text with
  | some value => .ok value
  | none => .error .json

/-- Checks an expression, and evaluates it unless only its form is of interest. The context is a
JSON text, and an empty object when there is none. -/
def check (source : String) (context : Option String) (syntaxOnly : Bool) :
    Except Failure CheckResult :=
  let g := Grammar.standard
  if syntaxOnly then
    match g.parse source with
    | .ok _ => .ok .wellFormed
    | .error fault => .error (.expression (.malformed fault))
  else do
    let context ← match context with
      | some text => readJson text
      | none => pure (.object .nil)
    let value ← (g.evaluate source context).mapError .expression
    pure (.value value.toJson)

/-- The key of a fraction. -/
def fractionKey (fraction : Float) : Except Failure Key :=
  (Sampling.fractionToKey fraction).mapError .range

/-- Whether a JSON text belongs to a sample of the given rate. -/
def stableSample (input : String) (rate : Float) : Except Failure Bool := do
  let value ← readJson input
  (Sampling.stableSample value rate).mapError .range

/-- Whether a JSON text falls into a run of buckets. -/
def bucketSample (input : String) (start count total : Int64) : Except Failure Bool := do
  let value ← readJson input
  (Sampling.bucketSample value start count total).mapError .range

end Cohort.CommandLine
