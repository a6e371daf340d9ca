import Cohort.Expr.Parser
import Cohort.Number.Words

/-! What expressions evaluate to. -/
namespace Cohort

/-- What names refer to: the root context, and the element that a filter looks at. -/
structure Scope where
  root : Value
  element : Option Value

namespace Value

/-- The entry of an object under a name; null when there is none. -/
def field (name : String) : Value → Value
  | .object fields => (fields.get? name).getD Value.null
  | _ => Value.null

/-- The item at an index. It is counted from the end when the index is negative: the size of the
index is then taken off the length, unless it is greater. -/
def item (items : List Value) (index : Int64) : Value :=
  if index < 0 then
    let size := (Number.magnitude index).toNat
    if items.length < size then Value.null else items[items.length - size]?.getD Value.null
  else items[index.toUInt64.toNat]?.getD Value.null

/-- A part of a value: an entry of an object by name, number or boolean, an item of an array by
index, a character of a string by index from the front. Whatever is not there is null. -/
def access : Value → Value → Value
  | .object fields, .string key => Value.field key (.object fields)
  | .object fields, .int n => Value.field (Scalar.text (.int n)) (.object fields)
  | .object fields, .float x => Value.field (Scalar.text (.float x)) (.object fields)
  | .object fields, .bool b => Value.field (Scalar.text (.bool b)) (.object fields)
  | .array items, .int n => item items n
  | .string s, .int n =>
    if n < 0 then Value.null
    else match s.toList[n.toInt.toNat]? with
      | some c => .string (String.ofList [c])
      | none => Value.null
  | _, _ => Value.null

/-- The values a filter looks at: the items of an array, nothing for null, and any other value
alone. -/
def elements : Value → List Value
  | .array items => items
  | .null => []
  | value => [value]

end Value

/-- The members for which a test holds, in their order; the first test that fails ends the
search. -/
def keepWhere (test : Value → Outcome) : List Value → Except EvalError (List Value)
  | [] => .ok []
  | item :: items => do
    let keep ← test item
    let kept ← keepWhere test items
    pure (if keep.truthy then item :: kept else kept)

namespace Expr

variable (g : Grammar)

mutual

/-- Evaluates an expression. An operator is looked up before its operands are evaluated, a transform
after its subject and arguments are. -/
def eval (scope : Scope) : Expr → Outcome
  | .literal value => .ok value
  | .identifier name => .ok (scope.root.field name)
  | .relative name => .ok ((scope.element.map (Value.field name)).getD Value.null)
  | .member subject property _ => do
    let subject ← eval scope subject
    let property ← eval scope property
    pure (subject.access property)
  | .array items => do pure (.array (← evalItems scope items))
  | .object entries => do pure (.object (.ofList (← evalEntries scope entries)))
  | .unary symbol operand =>
    match g.unary.get? symbol with
    | none => .error (.unknownOperator symbol)
    | some apply => do apply (← eval scope operand)
  | .binary symbol left right =>
    match g.binary.get? symbol with
    | none => .error (.unknownOperator symbol)
    | some op => do
      let leftValue ← eval scope left
      match op.rule with
      | .eager apply => do apply leftValue (← eval scope right)
      | .shortCircuit apply => apply leftValue fun _ => eval scope right
  | .conditional test consequent alternate => do
    if (← eval scope test).truthy then eval scope consequent else eval scope alternate
  | .filter subject predicate => do
    let subject ← eval scope subject
    let kept ← keepWhere (fun item => eval ⟨scope.root, some item⟩ predicate) subject.elements
    pure (.array kept)
  | .transform subject name arguments => do
    let subject ← eval scope subject
    let arguments ← evalItems scope arguments
    match g.transforms.get? name with
    | none => .error (.unknownTransform name)
    | some apply => apply subject arguments

def evalItems (scope : Scope) : List Expr → Except EvalError (List Value)
  | [] => .ok []
  | item :: items => do
    let value ← eval scope item
    let values ← evalItems scope items
    pure (value :: values)

def evalEntries (scope : Scope) : List (String × Expr) → Except EvalError (List (String × Value))
  | [] => .ok []
  | (key, item) :: entries => do
    let value ← eval scope item
    let values ← evalEntries scope entries
    pure ((key, value) :: values)

end

end Expr

namespace Grammar

/-- Evaluates an expression against a context. -/
def evalExpr (g : Grammar) (e : Expr) (context : Value) : Except Error Value :=
  (Expr.eval g ⟨context, none⟩ e).mapError EvalError.toError

/-- Evaluates the expression that a text spells. -/
def evaluate (g : Grammar) (text : String) (context : Value) : Except Error Value := do
  let e ← (g.parse text).mapError .malformed
  g.evalExpr e context

end Grammar

end Cohort
