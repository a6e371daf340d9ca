import Cohort.Expr.Basic
import Mathlib

/-!
Induction over expressions, and properties that hold at every node of one.
-/
namespace Cohort.Expr

/-- Induction over trees: what is to be shown of a collection may be assumed of its members. -/
@[elab_as_elim, induction_eliminator]
theorem induct {motive : Expr → Prop} (literal : ∀ value, motive (.literal value))
    (identifier : ∀ name, motive (.identifier name)) (relative : ∀ name, motive (.relative name))
    (member : ∀ subject property computed, motive subject → motive property →
      motive (.member subject property computed))
    (array : ∀ items, (∀ item ∈ items, motive item) → motive (.array items))
    (object : ∀ entries, (∀ entry ∈ entries, motive entry.2) → motive (.object entries))
    (unary : ∀ symbol operand, motive operand → motive (.unary symbol operand))
    (binary : ∀ symbol left right, motive left → motive right →
      motive (.binary symbol left right))
    (conditional : ∀ test consequent alternate, motive test → motive consequent →
      motive alternate → motive (.conditional test consequent alternate))
    (filter : ∀ subject predicate, motive subject → motive predicate →
      motive (.filter subject predicate))
    (transform : ∀ subject name arguments, motive subject →
      (∀ argument ∈ arguments, motive argument) → motive (.transform subject name arguments))
    (tree : Expr) : motive tree :=
  @Expr.rec motive (fun items => ∀ item ∈ items, motive item)
    (fun entries => ∀ entry ∈ entries, motive entry.2) (fun entry => motive entry.2)
    literal identifier relative member array object unary binary conditional filter transform
    (List.forall_mem_nil _) (fun _ _ head tail => List.forall_mem_cons.mpr ⟨head, tail⟩)
    (List.forall_mem_nil _) (fun _ _ head tail => List.forall_mem_cons.mpr ⟨head, tail⟩)
    (fun _ _ value => value) tree

def parts : Expr → List Expr
  | .literal _ | .identifier _ | .relative _ => []
  | .member subject property _ => [subject, property]
  | .array items => items
  | .object entries => entries.map (·.2)
  | .unary _ operand => [operand]
  | .binary _ left right => [left, right]
  | .conditional test consequent alternate => [test, consequent, alternate]
  | .filter subject predicate => [subject, predicate]
  | .transform subject _ arguments => subject :: arguments

/-- A property of a tree, of its parts, of the parts of these, and so on. -/
inductive Everywhere (p : Expr → Prop) : Expr → Prop where
  | intro {tree} (here : p tree) (inside : ∀ part ∈ tree.parts, Everywhere p part) :
    Everywhere p tree

section Everywhere
variable {p q : Expr → Prop} {tree : Expr}

theorem everywhere_iff :
    Everywhere p tree ↔ p tree ∧ ∀ part ∈ tree.parts, Everywhere p part :=
  ⟨fun ⟨here, inside⟩ => ⟨here, inside⟩, fun ⟨here, inside⟩ => ⟨here, inside⟩⟩

theorem Everywhere.here (h : Everywhere p tree) : p tree := (everywhere_iff.mp h).1

theorem Everywhere.imp (h : Everywhere p tree) (himp : ∀ node, p node → q node) :
    Everywhere q tree := by
  induction h with
  | intro here _ ih => exact .intro (himp _ here) ih

/-- What holds everywhere in a tree holds everywhere in each of its nodes. -/
theorem Everywhere.everywhere (h : Everywhere p tree) : Everywhere (Everywhere p) tree := by
  induction h with
  | intro here inside ih => exact .intro (.intro here inside) ih

@[simp] theorem everywhere_literal {value : Value} :
    Everywhere p (.literal value) ↔ p (.literal value) := by
  rw [everywhere_iff]
  simp [parts]

@[simp] theorem everywhere_identifier {name : String} :
    Everywhere p (.identifier name) ↔ p (.identifier name) := by
  rw [everywhere_iff]
  simp [parts]

@[simp] theorem everywhere_relative {name : String} :
    Everywhere p (.relative name) ↔ p (.relative name) := by
  rw [everywhere_iff]
  simp [parts]

@[simp] theorem everywhere_member {subject property : Expr} {computed : Bool} :
    Everywhere p (.member subject property computed) ↔ p (.member subject property computed) ∧
      Everywhere p subject ∧ Everywhere p property := by
  rw [everywhere_iff]
  simp [parts]

@[simp] theorem everywhere_array {items : List Expr} :
    Everywhere p (.array items) ↔ p (.array items) ∧ ∀ item ∈ items, Everywhere p item := by
  rw [everywhere_iff]
  simp [parts]

@[simp] theorem everywhere_object {entries : List (String × Expr)} :
    Everywhere p (.object entries) ↔ p (.object entries) ∧
      ∀ entry ∈ entries, Everywhere p entry.2 := by
  rw [everywhere_iff, parts, List.forall_mem_map]

@[simp] theorem everywhere_unary {symbol : String} {operand : Expr} :
    Everywhere p (.unary symbol operand) ↔ p (.unary symbol operand) ∧ Everywhere p operand := by
  rw [everywhere_iff]
  simp [parts]

@[simp] theorem everywhere_binary {symbol : String} {left right : Expr} :
    Everywhere p (.binary symbol left right) ↔ p (.binary symbol left right) ∧
      Everywhere p left ∧ Everywhere p right := by
  rw [everywhere_iff]
  simp [parts]

@[simp] theorem everywhere_conditional {test consequent alternate : Expr} :
    Everywhere p (.conditional test consequent alternate) ↔
      p (.conditional test consequent alternate) ∧
        Everywhere p test ∧ Everywhere p consequent ∧ Everywhere p alternate := by
  rw [everywhere_iff]
  simp [parts]

@[simp] theorem everywhere_filter {subject predicate : Expr} :
    Everywhere p (.filter subject predicate) ↔ p (.filter subject predicate) ∧
      Everywhere p subject ∧ Everywhere p predicate := by
  rw [everywhere_iff]
  simp [parts]

@[simp] theorem everywhere_transform {subject : Expr} {name : String} {arguments : List Expr} :
    Everywhere p (.transform subject name arguments) ↔ p (.transform subject name arguments) ∧
      Everywhere p subject ∧ ∀ argument ∈ arguments, Everywhere p argument := by
  rw [everywhere_iff]
  simp [parts]

theorem everywhere_of_forall (h : ∀ node, p node) (tree : Expr) : Everywhere p tree := by
  induction tree with
  | object entries ih => exact everywhere_object.mpr ⟨h _, ih⟩
  | _ => simp_all

end Everywhere

end Cohort.Expr
