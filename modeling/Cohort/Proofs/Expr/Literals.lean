import Cohort.Proofs.Document.Entries
import Cohort.Proofs.Expr.Sequences
import Cohort.Proofs.Parser.Grouped
import Mathlib

/-!
Trees that stand for values: literals, and arrays and objects of them. Their evaluation needs no
operator and looks at no context, and they are as deep as their values.
-/
namespace Cohort

mutual

def Document.depth {α : Type} : Document α → ℕ
  | .scalar _ => 0
  | .array items => Document.depthOfItems items + 1
  | .object fields => fields.depth + 1

def Document.depthOfItems {α : Type} : List (Document α) → ℕ
  | [] => 0
  | item :: items => max item.depth (Document.depthOfItems items)

def Fields.depth {α : Type} : {floor : Option String} → Fields α floor → ℕ
  | _, .nil => 0
  | _, .cons _ _ value rest => max value.depth rest.depth

end

theorem Fields.depth_of_mem {α : Type} {floor : Option String} {fields : Fields α floor}
    {entry : String × Document α} (h : entry ∈ fields.toList) : entry.2.depth ≤ fields.depth := by
  induction fields with
  | nil => simp at h
  | cons key above value rest ih =>
    rw [Fields.depth]
    rw [toList_cons, List.mem_cons] at h
    obtain rfl | h := h
    · exact le_max_left _ _
    · exact (ih h).trans (le_max_right _ _)

theorem Document.depth_of_mem {α : Type} {items : List (Document α)} {item : Document α}
    (h : item ∈ items) : item.depth ≤ Document.depthOfItems items := by
  induction items with
  | nil => simp at h
  | cons head items ih =>
    rw [Document.depthOfItems]
    obtain rfl | h := List.mem_cons.mp h
    · exact le_max_left _ _
    · exact (ih h).trans (le_max_right _ _)

/-- A tree evaluates to a value, whatever the grammar and the context are, and is no deeper. -/
structure Expr.StandsFor (tree : Expr) (value : Value) : Prop where
  eval : ∀ g scope, Expr.eval g scope tree = .ok value
  wellFormed : ∀ g, tree.WellFormed g
  levels : tree.levels ≤ value.depth + 1
  height : tree.height ≤ value.depth + 1

namespace Expr.StandsFor

theorem scalar {s : Scalar} (h : s.kind ≠ .date) : (literal (.scalar s)).StandsFor (.scalar s) where
  eval g scope := rfl
  wellFormed g := everywhere_literal.mpr ⟨s, rfl, h⟩
  levels := by rw [Expr.levels, Document.depth]
  height := by rw [Expr.height, Document.depth]

section Items
variable {trees : List Expr} {items : List Value}

theorem evalItems_eq_ok (h : List.Forall₂ StandsFor trees items) (g : Grammar) (scope : Scope) :
    evalItems g scope trees = .ok items := by
  induction h with
  | nil => rfl
  | cons htree _ ih =>
    rw [evalItems, htree.eval, ih]
    rfl

theorem items_le {n : ℕ} (h : List.Forall₂ StandsFor trees items)
    (hn : ∀ item ∈ items, item.depth ≤ n) : levelsOfItems trees ≤ n + 1 ∧ tallest trees ≤ n + 1 := by
  induction h with
  | nil => simp [levelsOfItems, tallest]
  | cons htree _ ih =>
    rw [List.forall_mem_cons] at hn
    have hlevels := htree.levels
    have hheight := htree.height
    obtain ⟨ihl, ihh⟩ := ih hn.2
    rw [levelsOfItems, tallest]
    omega

theorem forall_of_forall₂ {α β : Type} {R : α → β → Prop} {p : α → Prop} {xs : List α} {ys : List β}
    (h : List.Forall₂ R xs ys) (hp : ∀ x y, R x y → p x) : ∀ x ∈ xs, p x := by
  induction h with
  | nil => exact List.forall_mem_nil _
  | cons hxy _ ih => exact List.forall_mem_cons.mpr ⟨hp _ _ hxy, ih⟩

theorem array (h : List.Forall₂ StandsFor trees items) :
    (Expr.array trees).StandsFor (.array items) where
  eval g scope := by
    rw [Expr.eval, evalItems_eq_ok h]
    rfl
  wellFormed g := everywhere_array.mpr
    ⟨trivial, forall_of_forall₂ h fun _ _ htree => htree.wellFormed g⟩
  levels := by
    have hle := (items_le h fun _ => Document.depth_of_mem).1
    rw [Expr.levels, Document.depth]
    omega
  height := by
    have hle := (items_le h fun _ => Document.depth_of_mem).2
    rw [Expr.height, Document.depth]
    omega

end Items

section Entries
variable {trees : List (String × Expr)} {entries : List (String × Value)}

/-- Trees stand for the values of some entries, under the same keys. -/
abbrev Entries (trees : List (String × Expr)) (entries : List (String × Value)) : Prop :=
  List.Forall₂ (fun tree entry => tree.1 = entry.1 ∧ tree.2.StandsFor entry.2) trees entries

theorem evalEntries_eq_ok (h : Entries trees entries) (g : Grammar) (scope : Scope) :
    evalEntries g scope trees = .ok entries := by
  induction h with
  | nil => rfl
  | @cons tree entry _ _ hentry _ ih =>
    obtain ⟨key, tree⟩ := tree
    obtain ⟨hkey, htree⟩ := hentry
    dsimp only at hkey htree
    subst hkey
    rw [evalEntries, htree.eval, ih]
    rfl

theorem entries_le {n : ℕ} (h : Entries trees entries) (hn : ∀ entry ∈ entries, entry.2.depth ≤ n) :
    levelsOfEntries trees ≤ n + 1 ∧ tallestEntry trees ≤ n + 1 := by
  induction h with
  | nil => simp [levelsOfEntries, tallestEntry]
  | @cons tree _ _ _ hentry _ ih =>
    rw [List.forall_mem_cons] at hn
    have hlevels := hentry.2.levels
    have hheight := hentry.2.height
    obtain ⟨ihl, ihh⟩ := ih hn.2
    rw [levelsOfEntries, tallestEntry]
    omega

theorem object {fields : Cohort.Entries} (h : Entries trees entries)
    (all : entries.Perm fields.toList) : (Expr.object trees).StandsFor (.object fields) where
  eval g scope := by
    have hnodup : (entries.map Prod.fst).Nodup :=
      (all.map Prod.fst).nodup_iff.mpr fields.nodup_keys
    rw [Expr.eval, evalEntries_eq_ok h]
    refine congrArg (fun fields => Except.ok (Value.object fields)) ?_
    rw [Fields.ofList_eq_of_perm all hnodup, Fields.ofList_toList]
  wellFormed g := everywhere_object.mpr
    ⟨trivial, forall_of_forall₂ h fun _ _ hentry => hentry.2.wellFormed g⟩
  levels := by
    have hle := (entries_le h fun entry hmem => Fields.depth_of_mem (all.mem_iff.mp hmem)).1
    rw [Expr.levels, Document.depth]
    omega
  height := by
    have hle := (entries_le h fun entry hmem => Fields.depth_of_mem (all.mem_iff.mp hmem)).2
    rw [Expr.height, Document.depth]
    omega

end Entries

end Expr.StandsFor

end Cohort
