import Cohort.Json.Writer
import Cohort.Proofs.Document.Agreement
import Mathlib

/-!
Documents part by part: their text, and a function applied to every scalar. The shape and the keys
stay, so two such changes are one, and the text of a changed document is the text of the first one
with other texts for its scalars.
-/
namespace Cohort

variable {α β γ : Type} {f : α → β} {floor : Option String}

theorem Document.mapItems_eq_map (items : List (Document α)) :
    Document.mapItems f items = items.map (·.map f) := by
  induction items with
  | nil => rw [Document.mapItems, List.map_nil]
  | cons item items ih => rw [Document.mapItems, ih, List.map_cons]

theorem Fields.toList_map (fields : Fields α floor) :
    (fields.map f).toList = fields.toList.map fun entry => (entry.1, entry.2.map f) := by
  induction fields with
  | nil => rw [Fields.map, Fields.toList_nil, Fields.toList_nil, List.map_nil]
  | cons key above value rest ih =>
    rw [Fields.map, Fields.toList_cons, ih, Fields.toList_cons, List.map_cons]

section Compact
variable {scalar : α → String}

theorem compactItems_eq_map (items : List (Document α)) :
    Document.compactItems scalar items = items.map (·.compact scalar) := by
  induction items with
  | nil => rw [Document.compactItems, List.map_nil]
  | cons item items ih => rw [Document.compactItems, ih, List.map_cons]

theorem compactEntries_eq_map (fields : Fields α floor) :
    fields.compactEntries scalar =
      fields.toList.map fun entry => Json.quote entry.1 ++ ":" ++ entry.2.compact scalar := by
  induction fields with
  | nil => rw [Fields.compactEntries, Fields.toList_nil, List.map_nil]
  | cons key above value rest ih =>
    rw [Fields.compactEntries, ih, Fields.toList_cons, List.map_cons]

end Compact

/-- A list is not changed by a function that changes none of its members, and only then. -/
theorem map_eq_self_iff {h : α → α} {xs : List α} : xs.map h = xs ↔ ∀ x ∈ xs, h x = x := by
  conv_lhs => rw [← List.map_id xs, List.map_map]
  exact List.map_inj_left

namespace Document

theorem map_map (f : α → β) (g : β → γ) (document : Document α) :
    (document.map f).map g = document.map (g ∘ f) := by
  induction document with
  | scalar value => rw [map, map, map, Function.comp]
  | array items ih =>
    rw [map, map, map, mapItems_eq_map, mapItems_eq_map, mapItems_eq_map, List.map_map]
    exact congrArg array (List.map_congr_left ih)
  | object fields ih =>
    rw [map, map, map]
    refine congrArg object (Fields.toList_injective ?_)
    rw [Fields.toList_map, Fields.toList_map, Fields.toList_map, List.map_map]
    exact List.map_congr_left fun entry hmem => congrArg (Prod.mk entry.1) (ih entry hmem)

/-- A function leaves a document alone just when it leaves every scalar in it alone. -/
theorem map_eq_self_iff {f : α → α} {document : Document α} :
    document.map f = document ↔ document.Every fun value => f value = value := by
  induction document with
  | scalar value => rw [map, scalar.injEq, every_scalar]
  | array items ih =>
    rw [map, array.injEq, mapItems_eq_map, Cohort.map_eq_self_iff, every_array]
    exact forall₂_congr ih
  | object fields ih =>
    have hfields : fields.map f = fields ↔ (fields.map f).toList = fields.toList :=
      ⟨congrArg Fields.toList, Fields.toList_injective⟩
    rw [map, object.injEq, hfields, Fields.toList_map, Cohort.map_eq_self_iff, every_object]
    refine forall₂_congr fun entry hmem => ?_
    rw [← ih entry hmem, Prod.ext_iff]
    exact ⟨And.right, fun h => ⟨rfl, h⟩⟩

theorem compact_map (f : α → β) (scalar : β → String) (document : Document α) :
    (document.map f).compact scalar = document.compact (scalar ∘ f) := by
  induction document with
  | scalar value => rw [map, compact, compact, Function.comp]
  | array items ih =>
    have hitems : (items.map (·.map f)).map (·.compact scalar)
        = items.map (·.compact (scalar ∘ f)) :=
      List.map_map.trans (List.map_congr_left ih)
    rw [map, compact, compact, compactItems_eq_map, compactItems_eq_map, mapItems_eq_map, hitems]
  | object fields ih =>
    have hentries : (fields.map f).compactEntries scalar = fields.compactEntries (scalar ∘ f) := by
      rw [compactEntries_eq_map, compactEntries_eq_map, Fields.toList_map, List.map_map]
      exact List.map_congr_left fun entry hmem => congrArg (_ ++ ":" ++ ·) (ih entry hmem)
    rw [map, compact, compact, hentries]

end Document

end Cohort
