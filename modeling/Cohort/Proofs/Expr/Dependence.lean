import Cohort.Grammar.Standard
import Cohort.Proofs.Expr.Nodes
import Cohort.Proofs.Expr.Sequences
import Mathlib

/-!
What the value of an expression depends on: the names in it, and nothing else. A grammar matters by
the operators and transforms that the expression names, the root context by the values of its
identifiers, and the element of a filter only where a relative name stands outside of predicates.
-/
namespace Cohort.Expr

variable {g g' : Grammar} {scope scope' : Scope}

/-- Two grammars and two root contexts give a node the same meaning, its parts apart. -/
def SameMeaning (g g' : Grammar) (root root' : Value) : Expr → Prop
  | .identifier name => root.field name = root'.field name
  | .unary symbol _ => g.unary.get? symbol = g'.unary.get? symbol
  | .binary symbol _ _ => g.binary.get? symbol = g'.binary.get? symbol
  | .transform _ name _ => g.transforms.get? name = g'.transforms.get? name
  | _ => True

theorem evalItems_congr {items : List Expr}
    (h : ∀ item ∈ items, eval g scope item = eval g' scope' item) :
    evalItems g scope items = evalItems g' scope' items := by
  rw [evalItems_eq_mapM, evalItems_eq_mapM, mapM_congr h]

theorem evalEntries_congr {entries : List (String × Expr)}
    (h : ∀ entry ∈ entries, eval g scope entry.2 = eval g' scope' entry.2) :
    evalEntries g scope entries = evalEntries g' scope' entries := by
  rw [evalEntries_eq_mapM, evalEntries_eq_mapM]
  exact mapM_congr fun entry hmem => by rw [h entry hmem]

theorem anyRelative_eq_any (items : List Expr) : anyRelative items = items.any hasRelative := by
  induction items with
  | nil => rfl
  | cons item items ih => rw [anyRelative, List.any_cons, ih]

theorem anyRelativeEntry_eq_any (entries : List (String × Expr)) :
    anyRelativeEntry entries = entries.any fun entry => entry.2.hasRelative := by
  induction entries with
  | nil => rfl
  | cons entry entries ih => rw [anyRelativeEntry, List.any_cons, ih]

/-- Where the same meaning is given to every node, an expression has the same outcome. The elements
may differ unless the expression looks at them. -/
theorem eval_congr {root root' : Value} {tree : Expr}
    (h : Everywhere (SameMeaning g g' root root') tree) {element element' : Option Value}
    (helement : tree.hasRelative = true → element = element') :
    eval g ⟨root, element⟩ tree = eval g' ⟨root', element'⟩ tree := by
  induction tree generalizing element element' with
  | literal value => rfl
  | identifier name => exact congrArg Except.ok (everywhere_identifier.mp h)
  | relative name => rw [eval, eval, helement rfl]
  | member subject property computed ihs ihp =>
    obtain ⟨-, hs, hp⟩ := everywhere_member.mp h
    rw [eval, eval, ihs hs fun hr => helement (by simp [hasRelative, hr]),
      ihp hp fun hr => helement (by simp [hasRelative, hr])]
  | array items ih =>
    obtain ⟨-, hitems⟩ := everywhere_array.mp h
    rw [hasRelative, anyRelative_eq_any, List.any_eq_true] at helement
    rw [eval, eval, evalItems_congr fun item hmem => ih item hmem (hitems item hmem) fun hr =>
      helement ⟨item, hmem, hr⟩]
  | object entries ih =>
    obtain ⟨-, hentries⟩ := everywhere_object.mp h
    rw [hasRelative, anyRelativeEntry_eq_any, List.any_eq_true] at helement
    rw [eval, eval, evalEntries_congr fun entry hmem => ih entry hmem (hentries entry hmem)
      fun hr => helement ⟨entry, hmem, hr⟩]
  | unary symbol operand ih =>
    obtain ⟨hsymbol, hoperand⟩ := everywhere_unary.mp h
    rw [eval, eval, show g.unary.get? symbol = g'.unary.get? symbol from hsymbol,
      ih hoperand helement]
  | binary symbol left right ihl ihr =>
    obtain ⟨hsymbol, hl, hr⟩ := everywhere_binary.mp h
    rw [eval, eval, show g.binary.get? symbol = g'.binary.get? symbol from hsymbol,
      ihl hl fun hr => helement (by simp [hasRelative, hr]),
      ihr hr fun hr => helement (by simp [hasRelative, hr])]
  | conditional test consequent alternate iht ihc iha =>
    obtain ⟨-, ht, hc, ha⟩ := everywhere_conditional.mp h
    rw [eval, eval, iht ht fun hr => helement (by simp [hasRelative, hr]),
      ihc hc fun hr => helement (by simp [hasRelative, hr]),
      iha ha fun hr => helement (by simp [hasRelative, hr])]
  | filter subject predicate ihs ihp =>
    obtain ⟨-, hs, hp⟩ := everywhere_filter.mp h
    have htest : (fun item => eval g ⟨root, some item⟩ predicate)
        = fun item => eval g' ⟨root', some item⟩ predicate := funext fun item => ihp hp fun _ => rfl
    rw [eval, eval, ihs hs helement, htest]
  | transform subject name arguments ihs iha =>
    obtain ⟨hname, hs, ha⟩ := everywhere_transform.mp h
    rw [hasRelative, anyRelative_eq_any, Bool.or_eq_true, List.any_eq_true] at helement
    rw [eval, eval, show g.transforms.get? name = g'.transforms.get? name from hname,
      ihs hs fun hr => helement (.inl hr),
      evalItems_congr fun argument hmem => iha argument hmem (ha argument hmem) fun hr =>
        helement (.inr ⟨argument, hmem, hr⟩)]

theorem sameMeaning_refl (g : Grammar) (root : Value) (node : Expr) :
    SameMeaning g g root root node := by
  cases node <;> trivial

/-- An expression that mentions no element has the same outcome whatever the element is, whether
there is one or none. So a bracket around it is no filter: as a predicate it would be the same
test for every item. -/
theorem eval_eq_of_hasRelative_eq_false (g : Grammar) (root : Value) {tree : Expr}
    (h : tree.hasRelative = false) (element element' : Option Value) :
    eval g ⟨root, element⟩ tree = eval g ⟨root, element'⟩ tree ∧
      ∀ subject, Parser.bracket subject tree = .member subject tree true ∧
        ∀ items, keepWhere (fun item => eval g ⟨root, some item⟩ tree) items
          = keepWhere (fun _ => eval g ⟨root, element⟩ tree) items := by
  have hsame (r r' : Option Value) : eval g ⟨root, r⟩ tree = eval g ⟨root, r'⟩ tree :=
    eval_congr (everywhere_of_forall (sameMeaning_refl g root) tree) fun htrue => by
      rw [h] at htrue
      cases htrue
  refine ⟨hsame _ _, fun subject => ⟨if_neg (by simp [h]), fun items => ?_⟩⟩
  rw [funext fun item => hsame (some item) element]

theorem eval_eq_of_hasRelative_eq_false_standard :
    let tree : Expr := .binary "||" (.identifier "none")
      (.filter (.identifier "addons") (.binary "==" (.relative "type") (.identifier "kind")))
    let theme : Value := .object (.cons "type" trivial (Value.string "theme") .nil)
    let root : Value := .object (.cons "addons" trivial (Value.array [theme, Value.string "none"])
      (.cons "kind" (show "addons" < "kind" by decide) (Value.string "theme") .nil))
    tree.hasRelative = false ∧
      eval .standard ⟨root, none⟩ tree = eval .standard ⟨root, some theme⟩ tree ∧
      eval .standard ⟨root, none⟩ tree = .ok (.array [theme]) := by
  intro tree theme root
  exact ⟨rfl, (eval_eq_of_hasRelative_eq_false .standard root rfl none (some theme)).1, rfl⟩

end Cohort.Expr
