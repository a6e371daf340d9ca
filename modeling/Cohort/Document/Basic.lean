/-!
Documents: scalars, arrays, and objects whose entries stand in increasing order of their keys.
The order is part of the type, so two objects with the same entries are the same object. Keys are
ordered by their characters, and characters by their code points.
-/
namespace Cohort

namespace Text

instance decidableLt (a b : String) : Decidable (a < b) :=
  inferInstanceAs (Decidable (a.toList < b.toList))

instance decidableLe (a b : String) : Decidable (a ≤ b) :=
  inferInstanceAs (Decidable (¬b < a))

end Text

/-- What a key has to lie above to follow in an object: nothing, or the key before it. -/
def Above : Option String → String → Prop
  | none, _ => True
  | some floor, key => floor < key

mutual

/-- A tree whose leaves are scalars of type `α`. -/
inductive Document (α : Type) : Type where
  | scalar (value : α)
  | array (items : List (Document α))
  | object (fields : Fields α none)

/-- Entries of an object whose keys increase and lie above `floor`. -/
inductive Fields (α : Type) : Option String → Type where
  | nil {floor : Option String} : Fields α floor
  | cons {floor : Option String} (key : String) (above : Above floor key) (value : Document α)
      (rest : Fields α (some key)) : Fields α floor

end

variable {α β : Type} {floor : Option String}

instance [Inhabited α] : Inhabited (Document α) := ⟨.scalar default⟩

theorem lt_of_not_lt_of_ne {a b : String} (notLess : ¬a < b) (ne : a ≠ b) : b < a :=
  Std.lt_of_le_of_ne (Std.not_lt.mp notLess) (Ne.symm ne)

namespace Fields

def toList : {floor : Option String} → Fields α floor → List (String × Document α)
  | _, .nil => []
  | _, .cons key _ value rest => (key, value) :: rest.toList

def keys (fields : Fields α floor) : List String := fields.toList.map (·.1)

def size (fields : Fields α floor) : Nat := fields.toList.length

def get? (key : String) : {floor : Option String} → Fields α floor → Option (Document α)
  | _, .nil => none
  | _, .cons key' _ value rest => if key = key' then some value else rest.get? key

/-- Sets the entry of a key, in place of the one it had. -/
def insert (key : String) (value : Document α) :
    {floor : Option String} → Above floor key → Fields α floor → Fields α floor
  | _, above, .nil => .cons key above value .nil
  | _, above, .cons key' above' value' rest =>
    if less : key < key' then .cons key above value (.cons key' less value' rest)
    else if same : key = key' then .cons key' above' value rest
    else .cons key' above' value' (rest.insert key value (lt_of_not_lt_of_ne less same))

/-- The entries of a list; of two with one key the later counts. -/
def ofList (entries : List (String × Document α)) : Fields α none :=
  entries.foldl (fun fields entry => fields.insert entry.1 entry.2 trivial) .nil

end Fields

mutual

/-- Applies a function to every scalar. -/
def Document.map (f : α → β) : Document α → Document β
  | .scalar value => .scalar (f value)
  | .array items => .array (Document.mapItems f items)
  | .object fields => .object (fields.map f)

def Document.mapItems (f : α → β) : List (Document α) → List (Document β)
  | [] => []
  | item :: items => item.map f :: Document.mapItems f items

def Fields.map (f : α → β) : {floor : Option String} → Fields α floor → Fields β floor
  | _, .nil => .nil
  | _, .cons key above value rest => .cons key above (value.map f) (rest.map f)

end

mutual

/-- Whether two documents have the same shape and related scalars at the same places. -/
def Document.agree (r : α → β → Bool) : Document α → Document β → Bool
  | .scalar a, .scalar b => r a b
  | .array xs, .array ys => Document.agreeItems r xs ys
  | .object xs, .object ys => xs.agree r ys
  | _, _ => false

def Document.agreeItems (r : α → β → Bool) : List (Document α) → List (Document β) → Bool
  | [], [] => true
  | x :: xs, y :: ys => x.agree r y && Document.agreeItems r xs ys
  | _, _ => false

def Fields.agree (r : α → β → Bool) :
    {floor floor' : Option String} → Fields α floor → Fields β floor' → Bool
  | _, _, .nil, .nil => true
  | _, _, .cons key _ value rest, .cons key' _ value' rest' =>
    key == key' && value.agree r value' && rest.agree r rest'
  | _, _, _, _ => false

end

/-- Equality that compares scalars with their own. -/
instance [BEq α] : BEq (Document α) := ⟨Document.agree (· == ·)⟩

end Cohort
