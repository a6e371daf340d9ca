import Cohort.Proofs.Parser.Grouped
import Cohort.Proofs.Parser.Precedence
import Mathlib

/-!
Chains whose operators all have one precedence. They are grouped from left to right at every
precedence but the highest one. There the right operand cannot ask for operators that bind tighter,
takes in the rest of the chain, and the grouping goes from right to left.
-/
namespace Cohort.Parser
variable {g : Grammar}

def leftNested (first : Expr) (links : List (Link g)) : Expr :=
  links.foldl (fun left link => .binary link.symbol left link.operand.tree) first

def rightNested (first : Expr) : List (Link g) → Expr
  | [] => first
  | link :: links => .binary link.symbol first (rightNested link.operand.tree links)

@[simp] theorem leftNested_nil (first : Expr) : leftNested first ([] : List (Link g)) = first := rfl

@[simp] theorem leftNested_cons (first : Expr) (link : Link g) (links : List (Link g)) :
    leftNested first (link :: links)
      = leftNested (.binary link.symbol first link.operand.tree) links := rfl

theorem leftNested_concat (first : Expr) (links : List (Link g)) (last : Link g) :
    leftNested first (links ++ [last])
      = .binary last.symbol (leftNested first links) last.operand.tree := by
  simp [leftNested]

theorem height_le_leftNested (first : Expr) (links : List (Link g)) :
    first.height ≤ (leftNested first links).height := by
  induction links generalizing first with
  | nil => simp
  | cons link links ih =>
    have hrest := ih (.binary link.symbol first link.operand.tree)
    rw [Expr.height] at hrest
    rw [leftNested_cons]
    omega

/-- The two groupings differ as soon as there are two operators, as the left part of the root is
higher in one of them than in the other. -/
theorem rightNested_ne_leftNested (first : Expr) {links : List (Link g)} (h : 2 ≤ links.length) :
    rightNested first links ≠ leftNested first links := by
  intro heq
  obtain rfl | ⟨front, last, rfl⟩ := links.eq_nil_or_concat'
  · simp at h
  · obtain ⟨link, links, rfl⟩ : ∃ link links, front = link :: links :=
      List.exists_cons_of_ne_nil (by rintro rfl; simp at h)
    rw [leftNested_concat, List.cons_append, rightNested] at heq
    have hfirst : first = leftNested first (link :: links) := by injection heq
    have hheight := height_le_leftNested (.binary link.symbol first link.operand.tree) links
    rw [← leftNested_cons, ← hfirst, Expr.height] at hheight
    omega

/-- Below the highest precedence, an operand ends before the next operator of its level. -/
theorem reads_leftNested {p least : Int32} (hp : p ≠ Int32.maxValue) (hleast : least ≤ p)
    (left : Expr) {links : List (Link g)} (hlevel : ∀ link ∈ links, link.precedence = p) (o : ℕ)
    (rest : List Token) :
    ∃ n, Reads g (.binaryTail least left) (spell links ++ ⟨.eof, o⟩ :: rest) (⟨.eof, o⟩ :: rest)
      (leftNested left links) n := by
  induction links generalizing left with
  | nil => exact ⟨0, .binaryStop ((Ends.eof o rest).stop least)⟩
  | cons link links ih =>
    obtain ⟨hlink, hlinks⟩ := List.forall_mem_cons.mp hlevel
    obtain ⟨n, hoperand⟩ := link.operand.reads
    obtain ⟨m, hrest⟩ := ih (.binary link.symbol left link.operand.tree) hlinks
    have hstop : ¬ Continues g (tighter link.precedence) (spell links ++ ⟨.eof, o⟩ :: rest) := by
      refine not_continues_spell links o rest fun other hother => ?_
      rw [← Int32.not_le, hlink, tighter_le_iff hp, hlinks other (List.mem_of_mem_head? hother)]
      exact Int32.lt_irrefl
    refine ⟨max n m, ?_⟩
    rw [spell_cons, List.cons_append, List.append_assoc, leftNested_cons]
    exact .binaryStep link.registered (hlink ▸ hleast) ((hoperand links o rest).alone hstop) hrest

/-- At the highest precedence, the right operand takes in the rest of the chain. -/
theorem reads_rightNested (least : Int32) (left : Expr) {links : List (Link g)}
    (hlevel : ∀ link ∈ links, link.precedence = Int32.maxValue) (o : ℕ) (rest : List Token) :
    ∃ n, Reads g (.binaryTail least left) (spell links ++ ⟨.eof, o⟩ :: rest) (⟨.eof, o⟩ :: rest)
      (rightNested left links) n := by
  induction links generalizing least left with
  | nil => exact ⟨0, .binaryStop ((Ends.eof o rest).stop least)⟩
  | cons link links ih =>
    obtain ⟨hlink, hlinks⟩ := List.forall_mem_cons.mp hlevel
    obtain ⟨n, hoperand⟩ := link.operand.reads
    obtain ⟨m, hrest⟩ := ih (tighter link.precedence) link.operand.tree hlinks
    refine ⟨max (max n m) 0, ?_⟩
    rw [spell_cons, List.cons_append, List.append_assoc, rightNested]
    exact .binaryStep link.registered (hlink ▸ Int32.le_maxValue least)
      (.binary (hoperand links o rest) hrest) (.binaryStop ((Ends.eof o rest).stop least))

/-- An operand and what goes on after it are the whole of a token list. -/
theorem parseWithin_of_reads {first : Operand g} {links : List (Link g)} {tokens : List Token}
    {tree : Expr} (htokens : beforeEof tokens = first.tokens ++ spell links)
    (htail : ∀ o rest, ∃ n, Reads g (.binaryTail Int32.minValue first.tree)
      (spell links ++ ⟨.eof, o⟩ :: rest) (⟨.eof, o⟩ :: rest) tree n) :
    parseWithin g .unbounded tokens = .ok tree := by
  obtain ⟨o, rest, hclosed⟩ := exists_closed_eq tokens
  rw [htokens, List.append_assoc] at hclosed
  obtain ⟨n, hfirst⟩ := first.reads
  obtain ⟨m, htail⟩ := htail o rest
  have hreads : Reads g .expression (closed tokens) (⟨.eof, o⟩ :: rest) tree (max n m + 1) :=
    hclosed ▸ .expression (.test (.binary (hfirst links o rest) htail) rfl)
  exact parseWithin_eq_ok.mpr ⟨_, (run_eq_ok rfl rfl).mpr
    ⟨_, rest, ⟨_, hreads, rfl, rfl⟩, rfl, rfl, rfl⟩⟩

/-- A chain of two or more operators of one precedence is grouped from left to right, unless that is
the highest precedence, where it is grouped from right to left. The limits leave it at that as long
as the tree keeps to them, and otherwise find that it is nested too deep. -/
theorem parseTokens_level (first : Operand g) {links : List (Link g)} {p : Int32}
    (hlevel : ∀ link ∈ links, link.precedence = p) (hmany : 2 ≤ links.length) {tokens : List Token}
    (htokens : beforeEof tokens = first.tokens ++ spell links) :
    let tree :=
      if p = Int32.maxValue then rightNested first.tree links else leftNested first.tree links
    parseWithin g .unbounded tokens = .ok tree ∧ ReadAs g tokens tree ∧
    (g.parseTokens tokens = .ok (leftNested first.tree links) ∨
        (∃ o, g.parseTokens tokens = .error (.nestingTooDeep o)) ↔
      p ≠ Int32.maxValue ∨ ∃ o, g.parseTokens tokens = .error (.nestingTooDeep o)) := by
  intro tree
  have hunbounded : parseWithin g .unbounded tokens = .ok tree := by
    unfold tree
    split_ifs with hp
    · exact parseWithin_of_reads htokens (reads_rightNested _ _ (hp ▸ hlevel))
    · exact parseWithin_of_reads htokens (reads_leftNested hp (Int32.minValue_le p) _ hlevel)
  refine ⟨hunbounded, readAs_iff.mpr hunbounded, or_congr_left' fun htooDeep => ?_⟩
  have hparse : g.parseTokens tokens = parseWithin g .unbounded tokens :=
    (parseWithin_filters g .standard tokens).resolve_right htooDeep
  rw [hparse, hunbounded, Except.ok.injEq]
  by_cases hp : p = Int32.maxValue
  · simp [tree, hp, rightNested_ne_leftNested first.tree hmany]
  · simp [tree, hp]

/-- Addition and subtraction have one precedence. -/
theorem parseTokens_level_standard :
    let tokens : List Token := [⟨.identifier "a", 0⟩, ⟨.operator "-", 2⟩, ⟨.identifier "b", 4⟩,
      ⟨.operator "+", 6⟩, ⟨.identifier "c", 8⟩, ⟨.eof, 9⟩]
    let tree : Expr := .binary "+" (.binary "-" (.identifier "a") (.identifier "b"))
      (.identifier "c")
    (30 : Int32) ≠ Int32.maxValue ∧ parseWithin .standard .unbounded tokens = .ok tree ∧
      Grammar.standard.parseTokens tokens = .ok tree := by
  intro tokens tree
  let links : List (Link Grammar.standard) :=
    [⟨"-", 30, rfl, 2, .identifier _ "b" 4⟩, ⟨"+", 30, rfl, 6, .identifier _ "c" 8⟩]
  have hp : (30 : Int32) ≠ Int32.maxValue := by decide
  have hlevel : ∀ link ∈ links, link.precedence = 30 := by simp [links]
  have htokens : beforeEof tokens = (Operand.identifier Grammar.standard "a" 0).tokens ++
      spell links := rfl
  have hrun : run .standard .unbounded tokens = .ok (tree, ⟨[⟨.eof, 9⟩], 0, 1, 3⟩) := rfl
  obtain ⟨hunbounded, hread, -⟩ := parseTokens_level _ hlevel le_rfl htokens
  exact ⟨hp, hunbounded, hread.parseTokens_eq_ok hrun (by decide) (by decide)⟩

/-- Two operators of the highest precedence. -/
theorem parseTokens_level_highest :
    let g := Grammar.standard.addBinary "@" Int32.maxValue fun l r => .ok (.array [l, r])
    let tokens : List Token := [⟨.identifier "a", 0⟩, ⟨.operator "@", 2⟩, ⟨.identifier "b", 4⟩,
      ⟨.operator "@", 6⟩, ⟨.identifier "c", 8⟩, ⟨.eof, 9⟩]
    let left : Expr := .binary "@" (.binary "@" (.identifier "a") (.identifier "b"))
      (.identifier "c")
    let right : Expr := .binary "@" (.identifier "a")
      (.binary "@" (.identifier "b") (.identifier "c"))
    g.precedence? "@" = some Int32.maxValue ∧ g.parseTokens tokens = .ok right ∧ right ≠ left := by
  intro g tokens left right
  exact ⟨rfl, rfl, by simp [left, right]⟩

end Cohort.Parser
