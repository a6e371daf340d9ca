import Cohort.Proofs.Expr.Dependence
import Mathlib

/-!
The names that an expression mentions, each in the role it has there. They are all that ties an
expression to its grammar and its root context: whatever else is registered, and whatever else the
context holds, its outcome is the same.
-/
namespace Cohort

/-- A name in the role that an expression uses it in. Names in the element of a filter are not
among them. -/
inductive Mention where
  /-- A name in the root context. -/
  | identifier (name : String)
  | unary (symbol : String)
  | binary (symbol : String)
  | transform (name : String)
  deriving DecidableEq, Repr

/-- A name stands for the same in its role under two grammars and two root contexts; it may stand
for nothing under both. -/
def Mention.SameIn (g g' : Grammar) (root root' : Value) : Mention → Prop
  | .identifier name => root.field name = root'.field name
  | .unary symbol => g.unary.get? symbol = g'.unary.get? symbol
  | .binary symbol => g.binary.get? symbol = g'.binary.get? symbol
  | .transform name => g.transforms.get? name = g'.transforms.get? name

namespace Expr

def mention? : Expr → Option Mention
  | .identifier name => some (.identifier name)
  | .unary symbol _ => some (.unary symbol)
  | .binary symbol _ _ => some (.binary symbol)
  | .transform _ name _ => some (.transform name)
  | _ => none

mutual

def mentions : Expr → List Mention
  | .literal _ | .relative _ => []
  | .identifier name => [.identifier name]
  | .member subject property _ => subject.mentions ++ property.mentions
  | .array items => mentionsOfItems items
  | .object entries => mentionsOfEntries entries
  | .unary symbol operand => .unary symbol :: operand.mentions
  | .binary symbol left right => .binary symbol :: (left.mentions ++ right.mentions)
  | .conditional test consequent alternate =>
    test.mentions ++ (consequent.mentions ++ alternate.mentions)
  | .filter subject predicate => subject.mentions ++ predicate.mentions
  | .transform subject name arguments =>
    .transform name :: (subject.mentions ++ mentionsOfItems arguments)

def mentionsOfItems : List Expr → List Mention
  | [] => []
  | item :: items => item.mentions ++ mentionsOfItems items

def mentionsOfEntries : List (String × Expr) → List Mention
  | [] => []
  | (_, value) :: entries => value.mentions ++ mentionsOfEntries entries

end

theorem mentionsOfItems_eq_flatMap (items : List Expr) :
    mentionsOfItems items = items.flatMap mentions := by
  induction items with
  | nil => rfl
  | cons item items ih => rw [mentionsOfItems, List.flatMap_cons, ih]

theorem mentionsOfEntries_eq_flatMap (entries : List (String × Expr)) :
    mentionsOfEntries entries = entries.flatMap fun entry => entry.2.mentions := by
  induction entries with
  | nil => rfl
  | cons entry entries ih => rw [mentionsOfEntries, List.flatMap_cons, ih]

/-- What an expression mentions is what its nodes mention. -/
theorem forall_mem_mentions_iff {p : Mention → Prop} {tree : Expr} :
    (∀ mention ∈ tree.mentions, p mention) ↔
      Everywhere (fun node => ∀ mention ∈ node.mention?, p mention) tree := by
  induction tree with
  | literal value => simp [mentions, mention?]
  | identifier name => simp [mentions, mention?]
  | relative name => simp [mentions, mention?]
  | member subject property computed ihs ihp =>
    simp [mentions, mention?, or_imp, forall_and, ihs, ihp]
  | array items ih =>
    rw [mentions, mentionsOfItems_eq_flatMap, List.forall_mem_flatMap, everywhere_array]
    simp +contextual [mention?, ih]
  | object entries ih =>
    rw [mentions, mentionsOfEntries_eq_flatMap, List.forall_mem_flatMap, everywhere_object]
    simp +contextual [mention?, ih]
  | unary symbol operand ih => simp [mentions, mention?, ih]
  | binary symbol left right ihl ihr =>
    simp [mentions, mention?, or_imp, forall_and, ihl, ihr]
  | conditional test consequent alternate iht ihc iha =>
    simp [mentions, mention?, or_imp, forall_and, iht, ihc, iha]
  | filter subject predicate ihs ihp =>
    simp [mentions, mention?, or_imp, forall_and, ihs, ihp]
  | transform subject name arguments ihs iha =>
    rw [mentions, mentionsOfItems_eq_flatMap, List.forall_mem_cons, List.forall_mem_append,
      List.forall_mem_flatMap, everywhere_transform, ihs]
    simp +contextual [mention?, iha]

variable {g g' : Grammar} {root root' : Value}

/-- Nodes have the same meaning where the names that they mention stand for the same. -/
theorem sameMeaning_of_sameIn {node : Expr}
    (h : ∀ mention ∈ node.mention?, mention.SameIn g g' root root') :
    SameMeaning g g' root root' node := by
  cases node with
  | identifier name => exact h (.identifier name) rfl
  | unary symbol operand => exact h (.unary symbol) rfl
  | binary symbol left right => exact h (.binary symbol) rfl
  | transform subject name arguments => exact h (.transform name) rfl
  | _ => trivial

/-- An expression has the same outcome, value or failure, under two grammars and two root contexts
as soon as the names that it mentions stand for the same under both. -/
theorem eval_eq_of_mentions {tree : Expr}
    (h : ∀ mention ∈ tree.mentions, mention.SameIn g g' root root') (element : Option Value) :
    eval g ⟨root, element⟩ tree = eval g' ⟨root', element⟩ tree := by
  have hnodes := (forall_mem_mentions_iff.mp h).imp fun _ hnode => sameMeaning_of_sameIn hnode
  exact eval_congr hnodes fun _ => rfl

/-- Neither another entry of the context nor the want of an operator that is not mentioned is
noticed, while a transform that is mentioned is missing under both grammars. -/
theorem eval_eq_of_mentions_standard :
    let tree : Expr := .transform (.filter (.identifier "addons")
      (.binary "&&" (.binary "==" (.relative "type") (.identifier "kind"))
        (.unary "!" (.identifier "old")))) "first" [.literal (.int 1)]
    let g := (Grammar.standard.removeOp "+").addTransform "last" fun _ _ => .ok Value.null
    let theme : Value := .object (.cons "type" trivial (Value.string "theme") .nil)
    let root : Value := .object (.cons "addons" trivial (Value.array [theme, Value.string "none"])
      (.cons "kind" (show "addons" < "kind" by decide) (Value.string "theme") .nil))
    let root' : Value := .object (.cons "addons" trivial (Value.array [theme, Value.string "none"])
      (.cons "kind" (show "addons" < "kind" by decide) (Value.string "theme")
        (.cons "os" (show "kind" < "os" by decide) (Value.string "linux") .nil)))
    (∀ mention ∈ tree.mentions, mention.SameIn .standard g root root') ∧
      eval .standard ⟨root, none⟩ tree = .error (.unknownTransform "first") ∧
      eval g ⟨root', none⟩ tree = .error (.unknownTransform "first") := by
  intro tree g theme root root'
  have h : ∀ mention ∈ tree.mentions, mention.SameIn .standard g root root' := by
    simp only [tree, mentions, mentionsOfItems, List.cons_append, List.nil_append,
      List.append_nil, List.forall_mem_cons]
    exact ⟨rfl, rfl, rfl, rfl, rfl, rfl, rfl, List.forall_mem_nil _⟩
  have hfails : eval .standard ⟨root, none⟩ tree = .error (.unknownTransform "first") := rfl
  exact ⟨h, hfails, (eval_eq_of_mentions h none).symm.trans hfails⟩

end Expr

end Cohort
