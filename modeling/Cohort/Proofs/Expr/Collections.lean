import Cohort.Expr.Eval
import Cohort.Grammar.Standard
import Cohort.Proofs.Document.Entries
import Cohort.Proofs.Text.Bytes
import Mathlib

/-!
Collections and their parts. What the transforms make of an array or an object is what its parts are
when they are asked for one by one: the column of a name has at every index what the item there has
under the name, and the keys of an object are the names that it has something under.
-/
namespace Cohort

namespace Value
variable {items : List Value} {index : Int64} {name : String}

theorem access_string (value : Value) (name : String) :
    value.access (string name) = value.field name := by
  cases value with
  | scalar s => cases s <;> rfl
  | array items => rfl
  | object fields => rfl

theorem item_of_nonneg (h : 0 ≤ index.toInt) :
    item items index = items[index.toInt.toNat]?.getD null := by
  have hnonneg : 0 ≤ index := Int64.le_iff_toInt_le.mpr h
  have hplace : index.toUInt64.toNat = index.toInt.toNat := Int64.toNat_toUInt64_of_le hnonneg
  rw [item, if_neg (Int64.not_lt.mpr hnonneg), hplace]

theorem item_of_neg (h : index.toInt < 0) :
    item items index =
      if items.length < index.toInt.natAbs then null
      else items[items.length - index.toInt.natAbs]?.getD null := by
  have hneg : index < 0 := Int64.lt_iff_toInt_lt.mpr h
  rw [item, if_pos hneg, Number.toNat_magnitude]

/-- An index from the front and the one from the end are of the same item. -/
theorem item_eq {k : ℕ} (hk : k < items.length)
    (h : index.toInt = k ∨ index.toInt = k - items.length) : item items index = items[k] := by
  obtain h | h := h
  · rw [item_of_nonneg (by omega), h, Int.toNat_natCast, List.getElem?_eq_getElem hk,
      Option.getD_some]
  · have hplace : items.length - index.toInt.natAbs = k := by omega
    rw [item_of_neg (by omega), if_neg (by omega), hplace, List.getElem?_eq_getElem hk,
      Option.getD_some]

theorem item_eq_null (h : items.length ≤ index.toInt ∨ index.toInt < -items.length) :
    item items index = null := by
  obtain h | h := h
  · rw [item_of_nonneg (by omega), List.getElem?_eq_none (by omega), Option.getD_none]
  · rw [item_of_neg (by omega), if_pos (by omega)]

/-- What is made of the items one by one is made of the item at an index, and null where there is
none, if null is made of null. -/
theorem item_map {f : Value → Value} (hf : f null = null) :
    item (items.map f) index = f (item items index) := by
  have hplace (k : ℕ) : (items.map f)[k]?.getD null = f (items[k]?.getD null) := by
    rw [List.getElem?_map]
    cases items[k]? with
    | none => exact hf.symm
    | some value => rfl
  simp only [item, List.length_map, hplace]
  split_ifs
  · exact hf.symm
  · rfl
  · rfl

def column (name : String) (items : List Value) : List Value := items.map (field name)

theorem mapToProperty_array :
    Transforms.mapToProperty (.array items) [string name] = .ok (.array (column name items)) := rfl

theorem item_column : item (column name items) index = (item items index).access (string name) := by
  rw [access_string]
  exact item_map rfl

end Value

namespace Fields
variable {fields : Entries}

theorem mem_keys_iff {name : String} :
    name ∈ fields.keys ↔ ∃ value, fields.get? name = some value := by
  simp [keys, get?_eq_some_iff]

theorem length_keys : fields.keys.length = fields.size := List.length_map _

theorem pairwise_bytes_keys (fields : Entries) :
    fields.keys.Pairwise fun name name' => Text.bytes name < Text.bytes name' :=
  fields.pairwise_keys.imp Text.bytes_lt_bytes

/-- The keys with what the object has under them are its entries. -/
theorem map_access_keys (fields : Entries) :
    (fields.keys.map fun name => (name, Value.access (.object fields) (.string name)))
      = fields.toList := by
  rw [keys, List.map_map]
  refine (List.map_congr_left fun entry hentry => ?_).trans (List.map_id _)
  have hget : fields.get? entry.1 = some entry.2 := get?_eq_some_iff.mpr hentry
  rw [Function.comp_apply, Value.access_string, Value.field, hget]
  rfl

end Fields

namespace Expr

/-- The standard grammar evaluates an expression to a value. -/
def Yields (scope : Scope) (e : Expr) (value : Value) : Prop := eval .standard scope e = .ok value

abbrev part (subject property : Expr) : Expr := .member subject property true

/-- An expression evaluates to a number of things, as far as a word can tell it. -/
def Counts (scope : Scope) (e : Expr) (count : ℕ) : Prop :=
  ∃ n : Int64, Yields scope e (.int n) ∧ (count < 2 ^ 63 → n.toInt = count)

/-- What expressions say of an array and its parts: how many items there are, that the column of a
name has at every index what the item there has under the name, which indices are of an item, from
the front or from the end, and that operations on words find it. -/
structure ArrayParts (scope : Scope) (a : Expr) (items : List Value) : Prop where
  length : Counts scope (.transform a "length" []) items.length
  column : ∀ p name, Yields scope p (.string name) →
    ∃ values, Yields scope (.transform a "mapToProperty" [p]) (.array values) ∧
      values.length = items.length
  column_item : ∀ p name i index, Yields scope p (.string name) → Yields scope i (.int index) →
    ∃ value, Yields scope (part (.transform a "mapToProperty" [p]) i) value ∧
      Yields scope (part (part a i) p) value
  item : ∀ i index k, (hk : k < items.length) → Yields scope i (.int index) →
    index.toInt = k ∨ index.toInt = k - items.length → Yields scope (part a i) items[k]
  outside : ∀ i index, Yields scope i (.int index) →
    items.length ≤ index.toInt ∨ index.toInt < -items.length → Yields scope (part a i) .null
  words : ∀ i index, Yields scope i (.int index) →
    Yields scope (part a i) (Value.item items index)

/-- What expressions say of an object and its entries: how many there are, that the keys come in the
order of their bytes and are the names with an entry, and that the entries under them are all. -/
structure ObjectParts (scope : Scope) (o : Expr) (fields : Entries) (names : List String) :
    Prop where
  keys : Yields scope (.transform o "keys" []) (.array (names.map Value.string))
  increasing : names.Pairwise fun name name' => Text.bytes name < Text.bytes name'
  mem_iff : ∀ name, name ∈ names ↔ ∃ value, fields.get? name = some value
  length : Counts scope (.transform o "length" []) names.length
  entries : ∃ entry : String → Value,
    (∀ p name, Yields scope p (.string name) → Yields scope (part o p) (entry name)) ∧
      names.map (fun name => (name, entry name)) = fields.toList

section Yields
variable {scope : Scope} {subject property p : Expr} {value value' : Value} {name : String}
  {items : List Value} {fields : Entries}

theorem yields_part (hsubject : Yields scope subject value)
    (hproperty : Yields scope property value') :
    Yields scope (part subject property) (value.access value') := by
  rw [Yields, part, eval, hsubject, hproperty]
  rfl

theorem yields_transform {apply : Transform} {arguments : List Expr} {values : List Value}
    (h : Grammar.standard.transforms.get? name = some apply)
    (hsubject : Yields scope subject value)
    (harguments : evalItems .standard scope arguments = .ok values)
    (happly : apply value values = .ok value') :
    Yields scope (.transform subject name arguments) value' := by
  rw [Yields, eval, hsubject, harguments]
  simp only [h]
  exact happly

theorem yields_mapToProperty (hsubject : Yields scope subject (.array items))
    (hp : Yields scope p (.string name)) :
    Yields scope (.transform subject "mapToProperty" [p]) (.array (Value.column name items)) := by
  have harguments : evalItems .standard scope [p] = .ok [.string name] := by
    rw [evalItems, hp]
    rfl
  exact yields_transform rfl hsubject harguments Value.mapToProperty_array

theorem yields_keys (hsubject : Yields scope subject (.object fields)) :
    Yields scope (.transform subject "keys" []) (.array (fields.keys.map Value.string)) :=
  yields_transform rfl hsubject rfl rfl

theorem counts_length {count : ℕ} (hsubject : Yields scope subject value)
    (h : Transforms.length value [] = .ok (.int (Int64.ofNat count))) :
    Counts scope (.transform subject "length" []) count :=
  ⟨_, yields_transform rfl hsubject rfl h, Int64.toInt_ofNat_of_lt⟩

end Yields

/-- The transforms of arrays and objects agree with their parts, whatever expressions these come
from. -/
theorem collections_agree (scope : Scope) :
    (∀ a items, Yields scope a (.array items) → ArrayParts scope a items) ∧
    ∀ o fields, Yields scope o (.object fields) → ∃ names, ObjectParts scope o fields names := by
  constructor
  · intro a items ha
    have hitem (i : Expr) (index : Int64) (hi : Yields scope i (.int index)) :
        Yields scope (part a i) (Value.item items index) := yields_part ha hi
    refine ⟨counts_length ha rfl, fun p name hp => ?column, fun p name i index hp hi => ?columnItem,
      fun i index k hk hi hindex => ?item, fun i index hi hindex => ?outside, hitem⟩
    case column => exact ⟨_, yields_mapToProperty ha hp, List.length_map _⟩
    case columnItem =>
      have hcolumn : Yields scope (part (.transform a "mapToProperty" [p]) i)
          (Value.item (Value.column name items) index) :=
        yields_part (yields_mapToProperty ha hp) hi
      rw [Value.item_column] at hcolumn
      exact ⟨_, hcolumn, yields_part (hitem i index hi) hp⟩
    case item => exact Value.item_eq hk hindex ▸ hitem i index hi
    case outside => exact Value.item_eq_null hindex ▸ hitem i index hi
  · intro o fields ho
    exact ⟨fields.keys, yields_keys ho, fields.pairwise_bytes_keys, fun _ => Fields.mem_keys_iff,
      counts_length ho (by rw [Fields.length_keys]; rfl),
      _, fun p name hp => yields_part ho hp, fields.map_access_keys⟩

/-- The index `-3` is of the first of three items, the only object among them, and the least word is
of none. -/
theorem collections_agree_addons :
    let scope : Scope := ⟨.null, none⟩
    let fields : Entries := .cons "name" trivial (Value.string "Ada") .nil
    let items : List Value := [.object fields, Value.string "none", Value.null]
    let a : Expr := .literal (.array items)
    let o : Expr := .literal (.object fields)
    let p : Expr := .literal (Value.string "name")
    let third : Expr := .literal (Value.int (-3))
    let least : Expr := .literal (Value.int Int64.minValue)
    Yields scope a (.array items) ∧ ArrayParts scope a items ∧
      Yields scope (part a third) (.object fields) ∧ Yields scope (part a least) .null ∧
      (∃ value, Yields scope (part (.transform a "mapToProperty" [p]) third) value ∧
        Yields scope (part (part a third) p) value) ∧
      Yields scope o (.object fields) ∧ ∃ names, ObjectParts scope o fields names := by
  intro scope fields items a o p third least
  have hliteral (value : Value) : Yields scope (.literal value) value := by rw [Yields, eval]
  obtain ⟨harrays, hobjects⟩ := collections_agree scope
  have ha := harrays a items (hliteral _)
  exact ⟨hliteral _, ha,
    ha.item third (-3) 0 (by decide) (hliteral _) (.inr (by decide)),
    ha.outside least _ (hliteral _) (.inr (by decide)),
    ha.column_item p "name" third (-3) (hliteral _) (hliteral _),
    hliteral _, hobjects o fields (hliteral _)⟩

end Expr

end Cohort
