import Cohort.Error
import Cohort.Text.Character

/-! Grammars: the operators and transforms that expressions may use, and what they compute. -/
namespace Cohort

/-- Entries under names. -/
abbrev Table (α : Type) : Type := List (String × α)

namespace Table

variable {α : Type}

def get? (name : String) : Table α → Option α
  | [] => none
  | (name', entry) :: rest => if name = name' then some entry else get? name rest

def contains (name : String) (table : Table α) : Bool := (table.get? name).isSome

def erase (name : String) (table : Table α) : Table α := table.filter (·.1 ≠ name)

/-- Sets the entry of a name, in place of the one it had. -/
def insert (name : String) (entry : α) (table : Table α) : Table α :=
  (name, entry) :: table.erase name

def names (table : Table α) : List String := table.map (·.1)

theorem get?_erase (name other : String) (table : Table α) :
    get? other (table.erase name) = if other = name then none else table.get? other := by
  induction table with
  | nil => simp [erase, get?]
  | cons entry rest ih =>
    simp only [erase, List.filter_cons] at ih ⊢
    by_cases same : entry.1 = name <;> by_cases found : other = entry.1 <;>
      simp_all [get?]

theorem get?_insert (name other : String) (entry : α) (table : Table α) :
    get? other (table.insert name entry) =
      if other = name then some entry else table.get? other := by
  simp only [insert, get?, get?_erase]
  split <;> rfl

theorem mem_of_get? {name : String} {entry : α} {table : Table α}
    (h : table.get? name = some entry) : (name, entry) ∈ table := by
  induction table with
  | nil => simp [get?] at h
  | cons head rest ih =>
    rw [get?] at h
    split at h
    next same =>
      subst same
      cases h
      exact List.mem_cons_self
    next => exact List.mem_cons_of_mem _ (ih h)

end Table

/-- What an evaluation comes to. -/
abbrev Outcome : Type := Except EvalError Value

/-- How a binary operator gets its right operand: as a value, or unevaluated, so that it may leave
it alone. -/
inductive BinaryRule where
  | eager (apply : Value → Value → Outcome)
  | shortCircuit (apply : Value → (Unit → Outcome) → Outcome)

/-- A left-associative binary operator. A higher precedence binds tighter. -/
structure BinaryOp where
  precedence : Int32
  rule : BinaryRule

/-- A unary operator stands before its operand and binds tighter than every binary one. -/
abbrev UnaryOp : Type := Value → Outcome

/-- A transform gets the value it is applied to and its arguments. -/
abbrev Transform : Type := Value → List Value → Outcome

structure Grammar where
  binary : Table BinaryOp
  unary : Table UnaryOp
  transforms : Table Transform

/-- The members of a list in increasing order, each of them once. -/
def increasing (names : List String) : List String :=
  let rec place (name : String) : List String → List String
    | [] => [name]
    | other :: rest =>
      if name < other then name :: other :: rest
      else if name = other then other :: rest
      else other :: place name rest
  names.foldr place []

namespace Grammar

/-- The grammar without operators and transforms. -/
def empty : Grammar := ⟨[], [], []⟩

def addBinary (g : Grammar) (symbol : String) (precedence : Int32)
    (apply : Value → Value → Outcome) : Grammar :=
  { g with binary := g.binary.insert symbol ⟨precedence, .eager apply⟩ }

def addShortCircuit (g : Grammar) (symbol : String) (precedence : Int32)
    (apply : Value → (Unit → Outcome) → Outcome) : Grammar :=
  { g with binary := g.binary.insert symbol ⟨precedence, .shortCircuit apply⟩ }

def addUnary (g : Grammar) (symbol : String) (apply : UnaryOp) : Grammar :=
  { g with unary := g.unary.insert symbol apply }

def addTransform (g : Grammar) (name : String) (apply : Transform) : Grammar :=
  { g with transforms := g.transforms.insert name apply }

/-- Whether a symbol is an operator of either role. -/
def isSymbol (g : Grammar) (symbol : String) : Bool :=
  g.binary.contains symbol || g.unary.contains symbol

/-- Removes a symbol in both of its roles. -/
def removeOp (g : Grammar) (symbol : String) : Grammar :=
  { g with binary := g.binary.erase symbol, unary := g.unary.erase symbol }

/-- The operator symbols of both roles in increasing order. -/
def symbols (g : Grammar) : List String := increasing (g.binary.names ++ g.unary.names)

def precedence? (g : Grammar) (symbol : String) : Option Int32 :=
  (g.binary.get? symbol).map (·.precedence)

def isUnary (g : Grammar) (symbol : String) : Bool := g.unary.contains symbol

end Grammar

end Cohort
