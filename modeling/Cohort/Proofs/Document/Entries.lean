import Cohort.Document.Basic
import Mathlib

/-!
Objects as sets of entries. The keys of an object increase, so an object is determined by what it
has under each key, and entries with different keys may be set in any order.
-/
namespace Cohort

variable {α : Type} {floor : Option String}

/-- Induction over documents: what is to be shown of a collection may be assumed of its members. -/
@[elab_as_elim, induction_eliminator]
theorem Document.induct {motive : Document α → Prop} (scalar : ∀ value, motive (.scalar value))
    (array : ∀ items, (∀ item ∈ items, motive item) → motive (.array items))
    (object : ∀ fields : Fields α none, (∀ entry ∈ fields.toList, motive entry.2) →
      motive (.object fields))
    (document : Document α) : motive document :=
  @Document.rec α motive (fun _ fields => ∀ entry ∈ fields.toList, motive entry.2)
    (fun items => ∀ item ∈ items, motive item) scalar array object
    (List.forall_mem_nil _) (fun _ _ _ _ head tail => List.forall_mem_cons.mpr ⟨head, tail⟩)
    (List.forall_mem_nil _) (fun _ _ head tail => List.forall_mem_cons.mpr ⟨head, tail⟩) document

namespace Fields

/-- Induction over the entries of an object, the documents in them aside. -/
@[elab_as_elim, induction_eliminator]
theorem induct {motive : {floor : Option String} → Fields α floor → Prop}
    (nil : ∀ {floor}, motive (.nil : Fields α floor))
    (cons : ∀ {floor} key (above : Above floor key) value rest, motive rest →
      motive (.cons key above value rest)) (fields : Fields α floor) : motive fields :=
  @Fields.rec α (fun _ => True) (fun _ fields => motive fields) (fun _ => True)
    (fun _ => trivial) (fun _ _ => trivial) (fun _ _ => trivial) nil
    (fun key above value rest _ ih => cons key above value rest ih) trivial
    (fun _ _ _ _ => trivial) floor fields

@[simp] theorem toList_nil : (nil : Fields α floor).toList = [] := by
  rw [toList]

@[simp] theorem toList_cons {key : String} {above : Above floor key} {value : Document α}
    {rest : Fields α (some key)} :
    (cons key above value rest).toList = (key, value) :: rest.toList := by
  rw [toList]

@[simp] theorem get?_nil (key : String) : (nil : Fields α floor).get? key = none := by
  rw [get?]

@[simp] theorem get?_cons {other key : String} {above : Above floor key} {value : Document α}
    {rest : Fields α (some key)} :
    (cons key above value rest).get? other = if other = key then some value else rest.get? other := by
  rw [get?]

theorem above_of_mem {fields : Fields α floor} {entry : String × Document α}
    (h : entry ∈ fields.toList) : Above floor entry.1 := by
  induction fields with
  | nil => simp at h
  | @cons floor key above value rest ih =>
    rw [toList_cons, List.mem_cons] at h
    obtain rfl | h := h
    · exact above
    · cases floor with
      | none => trivial
      | some floor => exact lt_trans above (ih h)

theorem pairwise_keys (fields : Fields α floor) : fields.keys.Pairwise (· < ·) := by
  induction fields with
  | nil => simp [keys]
  | cons key above value rest ih =>
    rw [keys, toList_cons, List.map_cons, List.pairwise_cons]
    refine ⟨fun other hother => ?_, ih⟩
    obtain ⟨entry, hentry, rfl⟩ := List.mem_map.mp hother
    exact above_of_mem hentry

theorem nodup_keys (fields : Fields α floor) : fields.keys.Nodup :=
  fields.pairwise_keys.imp ne_of_lt

theorem get?_eq_some_iff {fields : Fields α floor} {key : String} {value : Document α} :
    fields.get? key = some value ↔ (key, value) ∈ fields.toList := by
  induction fields with
  | nil => simp
  | cons key' above value' rest ih =>
    rw [get?_cons, toList_cons, List.mem_cons, Prod.mk.injEq]
    split_ifs with h
    · subst h
      have hrest : (key, value) ∉ rest.toList := fun hmem => lt_irrefl key (above_of_mem hmem)
      simp [hrest, eq_comm]
    · simp [h, ih]

theorem toList_injective {fields fields' : Fields α floor} (h : fields.toList = fields'.toList) :
    fields = fields' := by
  induction fields with
  | nil => cases fields' <;> simp at h ⊢
  | cons key above value rest ih =>
    cases fields' with
    | nil => simp at h
    | cons key' above' value' rest' =>
      simp only [toList_cons, List.cons.injEq, Prod.mk.injEq] at h
      obtain ⟨⟨rfl, rfl⟩, h⟩ := h
      rw [ih h]

/-- An object is determined by what it has under each key. -/
theorem ext_get? {fields fields' : Fields α floor}
    (h : ∀ key, fields.get? key = fields'.get? key) : fields = fields' := by
  apply toList_injective
  have hsorted (f : Fields α floor) : f.toList.Pairwise fun a b => a.1 < b.1 :=
    List.pairwise_map.mp f.pairwise_keys
  refine List.Perm.eq_of_pairwise (fun a b _ _ hlt hgt => absurd hlt hgt.asymm) (hsorted _)
    (hsorted _) ?_
  have hnodup (f : Fields α floor) : f.toList.Nodup := f.nodup_keys.of_map
  refine (List.perm_ext_iff_of_nodup (hnodup _) (hnodup _)).mpr fun entry => ?_
  rw [← get?_eq_some_iff, ← get?_eq_some_iff, h]

theorem get?_insert {key other : String} {value : Document α} {above : Above floor key}
    {fields : Fields α floor} :
    (fields.insert key value above).get? other =
      if other = key then some value else fields.get? other := by
  induction fields with
  | nil => simp [insert]
  | cons key' above' value' rest ih =>
    by_cases hless : key < key'
    · rw [insert, dif_pos hless, get?_cons]
      rfl
    by_cases hsame : key = key'
    · subst hsame
      rw [insert, dif_neg hless, dif_pos rfl, get?_cons, get?_cons]
      split_ifs <;> rfl
    · rw [insert, dif_neg hless, dif_neg hsame, get?_cons, get?_cons,
        @ih (lt_of_not_lt_of_ne hless hsame)]
      split_ifs with hother hkey
      · exact absurd (hkey.symm.trans hother) hsame
      · rfl
      · rfl
      · rfl

def put (fields : Fields α none) (entry : String × Document α) : Fields α none :=
  fields.insert entry.1 entry.2 trivial

@[simp] theorem get?_put {fields : Fields α none} {entry : String × Document α} {key : String} :
    (fields.put entry).get? key = if key = entry.1 then some entry.2 else fields.get? key :=
  get?_insert

/-- What is left under a key after some entries with different keys have been set. -/
theorem get?_foldl_put {entries : List (String × Document α)}
    (h : (entries.map Prod.fst).Nodup) (fields : Fields α none) (key : String)
    (value : Document α) :
    (entries.foldl put fields).get? key = some value ↔
      (key, value) ∈ entries ∨ key ∉ entries.map Prod.fst ∧ fields.get? key = some value := by
  induction entries generalizing fields with
  | nil => simp
  | cons entry entries ih =>
    rw [List.map_cons, List.nodup_cons] at h
    rw [List.foldl_cons, ih h.2, get?_put]
    by_cases hkey : key = entry.1
    · subst hkey
      have hmem : (entry.1, value) ∉ entries := fun hmem => h.1 (List.mem_map.mpr ⟨_, hmem, rfl⟩)
      simp [h.1, hmem, Prod.ext_iff, eq_comm]
    · simp [hkey, Prod.ext_iff]

theorem get?_ofList {entries : List (String × Document α)} (h : (entries.map Prod.fst).Nodup)
    {key : String} {value : Document α} :
    (ofList entries).get? key = some value ↔ (key, value) ∈ entries := by
  have hput : ofList entries = entries.foldl put nil := rfl
  rw [hput, get?_foldl_put h]
  simp

/-- The order in which entries with different keys are set makes no difference. -/
theorem ofList_eq_of_perm {entries entries' : List (String × Document α)}
    (hperm : entries.Perm entries') (h : (entries.map Prod.fst).Nodup) :
    ofList entries = ofList entries' := by
  have h' : (entries'.map Prod.fst).Nodup := (hperm.map Prod.fst).nodup_iff.mp h
  apply ext_get?
  intro key
  ext value
  rw [get?_ofList h, get?_ofList h', hperm.mem_iff]

theorem ofList_toList (fields : Fields α none) : ofList fields.toList = fields := by
  apply ext_get?
  intro key
  ext value
  rw [get?_ofList fields.nodup_keys, get?_eq_some_iff]

end Fields

end Cohort
