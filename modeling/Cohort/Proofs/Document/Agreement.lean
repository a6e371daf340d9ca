import Cohort.Proofs.Document.Entries
import Mathlib

/-!
Documents compared part by part. Two documents agree under a relation of scalars when they have the
same shape and the same keys, and scalars at the same places are related. A relation that is
equality on the scalars of a document compares the whole document for equality.
-/
namespace Cohort

variable {α β : Type} {floor floor' : Option String}

inductive Document.Every (p : α → Prop) : Document α → Prop where
  | scalar {value} (h : p value) : Every p (.scalar value)
  | array {items} (h : ∀ item ∈ items, Every p item) : Every p (.array items)
  | object {fields : Fields α none} (h : ∀ entry ∈ fields.toList, Every p entry.2) :
    Every p (.object fields)

namespace Document
variable {p : α → Prop}

theorem every_scalar {value : α} : (scalar value).Every p ↔ p value :=
  ⟨fun h => by cases h with | scalar h => exact h, .scalar⟩

theorem every_array {items : List (Document α)} :
    (array items).Every p ↔ ∀ item ∈ items, item.Every p :=
  ⟨fun h => by cases h with | array h => exact h, .array⟩

theorem every_object {fields : Fields α none} :
    (object fields).Every p ↔ ∀ entry ∈ fields.toList, entry.2.Every p :=
  ⟨fun h => by cases h with | object h => exact h, .object⟩

end Document

section Agreement
variable {r : α → β → Bool}

theorem Document.agreeItems_iff {xs : List (Document α)} {ys : List (Document β)} :
    Document.agreeItems r xs ys = true ↔ List.Forall₂ (fun x y => x.agree r y = true) xs ys := by
  induction xs generalizing ys with
  | nil => cases ys <;> simp [Document.agreeItems]
  | cons x xs ih => cases ys <;> simp [Document.agreeItems, ih]

theorem Fields.agree_iff {xs : Fields α floor} {ys : Fields β floor'} :
    xs.agree r ys = true ↔
      List.Forall₂ (fun x y => x.1 = y.1 ∧ x.2.agree r y.2 = true) xs.toList ys.toList := by
  induction xs generalizing floor' with
  | nil => cases ys <;> simp [Fields.agree]
  | cons key above value rest ih => cases ys <;> simp [Fields.agree, ih, and_assoc]

/-- A relation between members at the same places may be replaced by one that follows from it for
members of the two lists. -/
theorem forall₂_of_mem {γ δ : Type} {R S : γ → δ → Prop} {xs : List γ} {ys : List δ}
    (h : ∀ x ∈ xs, ∀ y ∈ ys, R x y → S x y) (hR : List.Forall₂ R xs ys) :
    List.Forall₂ S xs ys := by
  rw [List.forall₂_iff_zip] at hR ⊢
  refine ⟨hR.1, fun hmem => ?_⟩
  obtain ⟨hx, hy⟩ := List.of_mem_zip hmem
  exact h _ hx _ hy (hR.2 hmem)

/-- Induction over two documents that agree: what is to be shown of two collections may be assumed
of the members at the same places. -/
@[elab_as_elim]
theorem Document.agree_induct {motive : Document α → Document β → Prop}
    (scalar : ∀ a b, r a b = true → motive (.scalar a) (.scalar b))
    (array : ∀ xs ys, List.Forall₂ (fun x y => x.agree r y = true ∧ motive x y) xs ys →
      motive (.array xs) (.array ys))
    (object : ∀ (xs : Fields α none) (ys : Fields β none),
      List.Forall₂ (fun x y => x.1 = y.1 ∧ x.2.agree r y.2 = true ∧ motive x.2 y.2)
        xs.toList ys.toList → motive (.object xs) (.object ys))
    {a : Document α} {b : Document β} (h : a.agree r b = true) : motive a b := by
  induction a generalizing b with
  | scalar value =>
    cases b with
    | scalar value' =>
      rw [Document.agree] at h
      exact scalar value value' h
    | _ => simp [Document.agree] at h
  | array items ih =>
    cases b with
    | array items' =>
      rw [Document.agree, Document.agreeItems_iff] at h
      exact array _ _ (forall₂_of_mem (fun item hitem _ _ hagree =>
        ⟨hagree, ih item hitem hagree⟩) h)
    | _ => simp [Document.agree] at h
  | object fields ih =>
    cases b with
    | object fields' =>
      rw [Document.agree, Fields.agree_iff] at h
      exact object _ _ (forall₂_of_mem (fun entry hentry _ _ hagree =>
        ⟨hagree.1, hagree.2, ih entry hentry hagree.2⟩) h)
    | _ => simp [Document.agree] at h

end Agreement

/-- A relation that is equality on the members of a list compares lists for equality. -/
theorem forall₂_iff_eq {γ : Type} {R : γ → γ → Prop} {xs ys : List γ}
    (h : ∀ x ∈ xs, ∀ y, R x y ↔ x = y) : List.Forall₂ R xs ys ↔ xs = ys := by
  induction xs generalizing ys with
  | nil => cases ys <;> simp
  | cons x xs ih =>
    rw [List.forall_mem_cons] at h
    cases ys with
    | nil => simp
    | cons y ys => rw [List.forall₂_cons, h.1, ih h.2, List.cons.injEq]

theorem Document.Every.agree_iff_eq {p : α → Prop} {r : α → α → Bool}
    (hr : ∀ a, p a → ∀ b, r a b = true ↔ a = b) {document : Document α} (h : document.Every p)
    (other : Document α) : document.agree r other = true ↔ document = other := by
  induction h generalizing other with
  | @scalar value hvalue =>
    cases other <;> simp [Document.agree, hr value hvalue]
  | array _ ih =>
    cases other with
    | array items => rw [Document.agree, Document.agreeItems_iff, forall₂_iff_eq ih, array.injEq]
    | _ => simp [Document.agree]
  | @object fields _ ih =>
    cases other with
    | object fields' =>
      have hentries : ∀ entry ∈ fields.toList, ∀ entry' : String × Document α,
          entry.1 = entry'.1 ∧ entry.2.agree r entry'.2 = true ↔ entry = entry' :=
        fun entry hmem entry' => by rw [ih entry hmem, Prod.ext_iff]
      rw [Document.agree, Fields.agree_iff, forall₂_iff_eq hentries, object.injEq]
      exact ⟨Fields.toList_injective, congrArg Fields.toList⟩
    | _ => simp [Document.agree]

end Cohort
