import Cohort.Proofs.Parser.Limits
import Cohort.Proofs.Parser.Locality
import Mathlib

/-!
Chains of operands with binary operators between them. The parser goes through a chain from front
to back and never looks further than the next operator. The tree it comes to is the one that a look
at the whole chain gives: the rightmost operator of the lowest precedence is the root, and what is
on either side of it is grouped in the same way.
-/
namespace Cohort.Parser

/-- A run of tokens that the reader of unary operands takes in as a whole when nothing comes after
it, and the tree that it stands for. -/
structure Operand (g : Grammar) where
  tokens : List Token
  tree : Expr
  accepted : ∃ limits fuel s o,
    unary g limits fuel (start tokens) = .ok (tree, s) ∧ s.tokens = [⟨.eof, o⟩]

/-- A binary operator of a chain, with the operand after it. -/
structure Link (g : Grammar) where
  symbol : String
  precedence : Int32
  registered : g.precedence? symbol = some precedence
  offset : ℕ
  operand : Operand g

structure Cut (g : Grammar) where
  before : List (Link g)
  pivot : Link g
  after : List (Link g)

variable {g : Grammar}

def Cut.links (cut : Cut g) : List (Link g) := cut.before ++ cut.pivot :: cut.after

/-- The cut is at the rightmost operator of the lowest precedence. -/
structure Cut.Lowest (cut : Cut g) : Prop where
  before : ∀ link ∈ cut.before, cut.pivot.precedence ≤ link.precedence
  after : ∀ link ∈ cut.after, cut.pivot.precedence < link.precedence

theorem Cut.Lowest.le {cut : Cut g} (h : cut.Lowest) {link : Link g} (hlink : link ∈ cut.links) :
    cut.pivot.precedence ≤ link.precedence := by
  rw [Cut.links, List.mem_append, List.mem_cons] at hlink
  obtain hlink | rfl | hlink := hlink
  · exact h.before link hlink
  · exact Int32.le_refl _
  · exact Int32.le_of_lt (h.after link hlink)

/-- There is only one such cut: of two pivots, the first one would be both lower than the other one
and no lower. -/
theorem Cut.Lowest.unique {cut cut' : Cut g} (h : cut.Lowest) (h' : cut'.Lowest)
    (heq : cut.links = cut'.links) : cut = cut' := by
  obtain ⟨before, pivot, after⟩ := cut
  obtain ⟨before', pivot', after'⟩ := cut'
  dsimp only [Cut.links] at heq
  obtain ⟨between, rfl, hpivot⟩ | ⟨between, rfl, hpivot⟩ := List.append_eq_append_iff.mp heq
  · cases between with
    | nil => simpa using hpivot
    | cons link between =>
      obtain ⟨rfl, rfl⟩ := List.cons.inj hpivot
      exact absurd (h.after pivot' (by simp)) (Int32.not_lt.mpr (h'.before pivot (by simp)))
  · cases between with
    | nil => simpa [eq_comm] using hpivot
    | cons link between =>
      obtain ⟨rfl, rfl⟩ := List.cons.inj hpivot
      exact absurd (h'.after pivot (by simp)) (Int32.not_lt.mpr (h.before pivot' (by simp)))

def cutLowest (first : Link g) : List (Link g) → Cut g
  | [] => ⟨[], first, []⟩
  | second :: rest =>
    let cut := cutLowest second rest
    if cut.pivot.precedence ≤ first.precedence then { cut with before := first :: cut.before }
    else ⟨[], first, second :: rest⟩

theorem links_cutLowest (first : Link g) (rest : List (Link g)) :
    (cutLowest first rest).links = first :: rest := by
  induction rest generalizing first with
  | nil => rfl
  | cons second rest ih =>
    rw [cutLowest]
    split_ifs
    · exact congrArg (first :: ·) (ih second)
    · rfl

theorem lowest_cutLowest (first : Link g) (rest : List (Link g)) :
    (cutLowest first rest).Lowest := by
  induction rest generalizing first with
  | nil => exact ⟨List.forall_mem_nil _, List.forall_mem_nil _⟩
  | cons second rest ih =>
    rw [cutLowest]
    split_ifs with hle
    · exact ⟨List.forall_mem_cons.mpr ⟨hle, (ih second).before⟩, (ih second).after⟩
    · refine ⟨List.forall_mem_nil _, fun link hlink => ?_⟩
      rw [← links_cutLowest] at hlink
      exact Int32.lt_of_lt_of_le (Int32.not_le.mp hle) ((ih second).le hlink)

/-- The tree of a chain with a first operand: cut at the rightmost operator of the lowest
precedence, with both sides grouped in the same way. -/
def group (first : Expr) : List (Link g) → Expr
  | [] => first
  | link :: links =>
    let cut := cutLowest link links
    .binary cut.pivot.symbol (group first cut.before) (group cut.pivot.operand.tree cut.after)
termination_by links => links.length
decreasing_by
  all_goals
    have hlength := congrArg List.length (links_cutLowest link links)
    simp only [Cut.links, List.length_append, List.length_cons] at hlength ⊢
    omega

@[simp] theorem group_nil (first : Expr) : group first ([] : List (Link g)) = first := by
  rw [group]

theorem group_links (first : Expr) {cut : Cut g} (h : cut.Lowest) :
    group first cut.links = .binary cut.pivot.symbol (group first cut.before)
      (group cut.pivot.operand.tree cut.after) := by
  obtain ⟨link, links, hlinks⟩ : ∃ link links, cut.links = link :: links :=
    List.exists_cons_of_ne_nil (by simp [Cut.links])
  have hcut : cutLowest link links = cut :=
    (lowest_cutLowest link links).unique h (by rw [links_cutLowest, hlinks])
  rw [hlinks, group, hcut]

/-- Operators that are no lower do not change the root of what they stand before. -/
theorem group_append_links (first : Expr) (front : List (Link g)) {cut : Cut g} (h : cut.Lowest)
    (hfront : ∀ link ∈ front, cut.pivot.precedence ≤ link.precedence) :
    group first (front ++ cut.links) = .binary cut.pivot.symbol (group first (front ++ cut.before))
      (group cut.pivot.operand.tree cut.after) := by
  have hroot : Cut.Lowest { cut with before := front ++ cut.before } :=
    ⟨List.forall_mem_append.mpr ⟨hfront, h.before⟩, h.after⟩
  have htree := group_links first hroot
  rwa [Cut.links, List.append_assoc] at htree

/-- The first operator of a chain takes in what binds tighter and is then an operand itself. -/
theorem group_cons_append (first : Expr) (link : Link g) {inner outer : List (Link g)}
    (hinner : ∀ other ∈ inner, link.precedence < other.precedence)
    (houter : ∀ other ∈ outer.head?, other.precedence ≤ link.precedence) :
    group first (link :: (inner ++ outer)) =
      group (.binary link.symbol first (group link.operand.tree inner)) outer := by
  induction hlength : outer.length using Nat.strong_induction_on generalizing outer with
  | _ length ih =>
    cases outer with
    | nil =>
      rw [List.append_nil, group_nil]
      have hroot : Cut.Lowest ⟨[], link, inner⟩ := ⟨List.forall_mem_nil _, hinner⟩
      have htree := group_links first hroot
      rwa [group_nil] at htree
    | cons head outer =>
      have hlinks := links_cutLowest head outer
      have hlowest := lowest_cutLowest head outer
      generalize cutLowest head outer = cut at hlinks hlowest
      have hpivot : cut.pivot.precedence ≤ link.precedence :=
        Int32.le_trans (hlowest.le (hlinks ▸ List.mem_cons_self)) (houter head rfl)
      have hfront : ∀ other ∈ link :: inner, cut.pivot.precedence ≤ other.precedence :=
        List.forall_mem_cons.mpr ⟨hpivot, fun other hother =>
          Int32.le_of_lt (Int32.lt_of_le_of_lt hpivot (hinner other hother))⟩
      have hbefore : ∀ other ∈ cut.before.head?, other.precedence ≤ link.precedence := by
        intro other hother
        refine houter other ?_
        rw [← hlinks, Cut.links, List.head?_append, Option.mem_def.mp hother]
        rfl
      have hless : cut.before.length < length := by
        have hcount := congrArg List.length hlinks
        simp only [Cut.links, List.length_append, List.length_cons] at hcount hlength
        omega
      calc group first (link :: (inner ++ head :: outer))
          = .binary cut.pivot.symbol (group first (link :: (inner ++ cut.before)))
              (group cut.pivot.operand.tree cut.after) := by
            rw [← hlinks]
            exact group_append_links first (link :: inner) hlowest hfront
        _ = .binary cut.pivot.symbol
              (group (.binary link.symbol first (group link.operand.tree inner)) cut.before)
              (group cut.pivot.operand.tree cut.after) := by rw [ih _ hless hbefore rfl]
        _ = group (.binary link.symbol first (group link.operand.tree inner)) (head :: outer) := by
            rw [← hlinks, group_links _ hlowest]

def spell (links : List (Link g)) : List Token :=
  links.flatMap fun link => ⟨.operator link.symbol, link.offset⟩ :: link.operand.tokens

theorem spell_cons (link : Link g) (links : List (Link g)) :
    spell (link :: links)
      = ⟨.operator link.symbol, link.offset⟩ :: (link.operand.tokens ++ spell links) := by
  simp [spell]

section Ends
variable (links : List (Link g)) (o : ℕ) (rest : List Token)

theorem suffixAt_spell : suffixAt (spell links ++ ⟨.eof, o⟩ :: rest) = false := by
  cases links with
  | nil => rfl
  | cons link links =>
    rw [spell_cons]
    rfl

theorem startsWith_spell (mark : Mark) :
    startsWith mark (spell links ++ ⟨.eof, o⟩ :: rest) = false := by
  cases links with
  | nil => rfl
  | cons link links =>
    rw [spell_cons]
    rfl

/-- A chain goes on only if its next operator binds tight enough. -/
theorem not_continues_spell {least : Int32}
    (h : ∀ link ∈ links.head?, link.precedence < least) :
    ¬ Continues g least (spell links ++ ⟨.eof, o⟩ :: rest) := by
  rintro ⟨symbol, precedence, hat, hle⟩
  cases links with
  | nil => cases hat
  | cons link links =>
    rw [spell_cons, List.cons_append, binaryAt, link.registered] at hat
    cases hat
    exact Int32.not_lt.mpr hle (h link rfl)

end Ends

theorem Operand.reads (operand : Operand g) :
    ∃ n, ∀ (links : List (Link g)) (o : ℕ) (rest : List Token),
      Reads g .unary (operand.tokens ++ (spell links ++ ⟨.eof, o⟩ :: rest))
        (spell links ++ ⟨.eof, o⟩ :: rest) operand.tree n := by
  obtain ⟨tokens, tree, limits, fuel, s, o', haccepted, hleft⟩ := operand
  have hunbounded : unary g .unbounded fuel (start tokens) = .ok (tree, s) := by
    have hfilters := ((respects_filters g limits).related fuel).unary
    obtain heq | ⟨left, htooDeep⟩ := hfilters.follows (start tokens)
    · exact heq.symm.trans haccepted
    · cases haccepted.symm.trans htooDeep
  obtain ⟨after, n, hreads, -, -, rfl⟩ :=
    sound g rfl fuel .unary 0 hunbounded ⟨rfl, le_rfl⟩ trivial
  obtain rfl : after = [⟨.eof, o'⟩] := hleft
  obtain ⟨consumed, hclosed, -, hmove⟩ := hreads.movable
  obtain ⟨rfl, -⟩ := List.append_inj' hclosed rfl
  refine ⟨n, fun links o rest => hmove _ ⟨?_, ?_, by simp [Form.joins], by simp [Form.joins]⟩⟩
  · exact (suffixAt_spell links o rest).symm
  · exact (startsWith_spell links o rest _).symm

/-- An operator binds at least as tight as what is tighter than another one exactly if it binds
tighter than that one. -/
theorem tighter_le_iff {p q : Int32} (h : p ≠ Int32.maxValue) : tighter p ≤ q ↔ p < q := by
  have hless : p.toInt < 2 ^ 31 - 1 := by
    have hne : p.toInt ≠ 2 ^ 31 - 1 := fun heq => h (Int32.toInt_inj.mp heq)
    have := p.toInt_lt
    omega
  have hnext : (p + 1).toInt = p.toInt + 1 := by
    rw [Int32.toInt_add]
    have := p.le_toInt
    exact Int.bmod_eq_of_le (by simp; omega) (by simp; omega)
  rw [tighter, if_neg h, Int32.le_iff_toInt_le, Int32.lt_iff_toInt_lt, hnext]
  omega

/-- The operators at the front of a chain that bind tighter than `p`, and the others. -/
theorem exists_tighter_append (p : Int32) (links : List (Link g)) :
    ∃ inner outer, links = inner ++ outer ∧ (∀ link ∈ inner, p < link.precedence) ∧
      ∀ link ∈ outer.head?, link.precedence ≤ p := by
  induction links with
  | nil => exact ⟨[], [], rfl, by simp, by simp⟩
  | cons link links ih =>
    by_cases hlt : p < link.precedence
    · obtain ⟨inner, outer, rfl, hinner, houter⟩ := ih
      exact ⟨link :: inner, outer, rfl, List.forall_mem_cons.mpr ⟨hlt, hinner⟩, houter⟩
    · refine ⟨[], link :: links, rfl, List.forall_mem_nil _, fun other hother => ?_⟩
      cases hother
      exact Int32.not_lt.mp hlt

/-- What follows an operand takes in the operators that bind tight enough, and groups them. The
right operand of the first one takes those that bind tighter, and the chain goes on with the
others. -/
theorem reads_binaryTail (hmax : ∀ symbol, g.precedence? symbol ≠ some Int32.maxValue)
    (least : Int32) (left : Expr) (taken others : List (Link g)) (o : ℕ) (rest : List Token)
    (htaken : ∀ link ∈ taken, least ≤ link.precedence)
    (hothers : ∀ link ∈ others.head?, link.precedence < least) :
    ∃ n, Reads g (.binaryTail least left) (spell (taken ++ others) ++ ⟨.eof, o⟩ :: rest)
      (spell others ++ ⟨.eof, o⟩ :: rest) (group left taken) n := by
  induction hlength : taken.length using Nat.strong_induction_on
    generalizing least left taken others with
  | _ length ih =>
    cases taken with
    | nil =>
      rw [group_nil]
      exact ⟨0, .binaryStop (not_continues_spell others o rest hothers)⟩
    | cons link taken =>
      obtain ⟨inner, outer, rfl, hinner, houter⟩ := exists_tighter_append link.precedence taken
      simp only [List.length_cons, List.length_append] at hlength
      have htight : least ≤ link.precedence := htaken link List.mem_cons_self
      have hbelow {q : Int32} : tighter link.precedence ≤ q ↔ link.precedence < q :=
        tighter_le_iff fun heq => hmax link.symbol (heq ▸ link.registered)
      obtain ⟨n, hoperand⟩ := link.operand.reads
      obtain ⟨m, hright⟩ := ih inner.length (by omega) (tighter link.precedence)
        link.operand.tree inner (outer ++ others)
        (fun other hother => hbelow.mpr (hinner other hother))
        (fun other hother => by
          rw [← Int32.not_le, hbelow, Int32.not_lt]
          cases outer with
          | nil => exact Int32.le_trans (Int32.le_of_lt (hothers other hother)) htight
          | cons next outer => exact houter other hother) rfl
      obtain ⟨k, hrest⟩ := ih outer.length (by omega) least
        (.binary link.symbol left (group link.operand.tree inner)) outer others
        (fun other hother => htaken other (by simp [hother])) hothers rfl
      refine ⟨max (max n m) k, ?_⟩
      rw [group_cons_append left link hinner houter, List.cons_append, List.append_assoc,
        spell_cons, List.cons_append, List.append_assoc]
      exact .binaryStep link.registered htight (.binary (hoperand _ o rest) hright) hrest

theorem spells_chain (hmax : ∀ symbol, g.precedence? symbol ≠ some Int32.maxValue)
    (first : Operand g) (links : List (Link g)) (o : ℕ) (rest : List Token) :
    ∃ n rest', Spells g (first.tokens ++ (spell links ++ ⟨.eof, o⟩ :: rest))
      (group first.tree links) n rest' := by
  obtain ⟨n, hfirst⟩ := first.reads
  obtain ⟨o', hclosed⟩ : ∃ o', closed (first.tokens ++ (spell links ++ ⟨.eof, o⟩ :: rest))
      = first.tokens ++ (spell links ++ ⟨.eof, o⟩ :: (rest ++ [⟨.eof, o'⟩])) :=
    ⟨_, by simp [closed]; rfl⟩
  obtain ⟨m, htail⟩ := reads_binaryTail hmax Int32.minValue first.tree links [] o
    (rest ++ [⟨.eof, o'⟩]) (fun link _ => link.precedence.minValue_le) (by simp)
  rw [List.append_nil] at htail
  refine ⟨max n m + 1, _, ⟨.eof, o⟩ :: (rest ++ [⟨.eof, o'⟩]), ?_, rfl, rfl⟩
  rw [hclosed]
  exact .expression (.test (.binary (hfirst links o _) htail) rfl)

/-- A chain is read as the tree that splitting it at the rightmost operator of the lowest precedence
gives, unless that tree is too high or too many levels were open at once. -/
theorem parseTokens_chain (g : Grammar)
    (hmax : ∀ symbol, g.precedence? symbol ≠ some Int32.maxValue) (first : Operand g)
    (links : List (Link g)) (o : ℕ) (rest : List Token) :
    let tokens := first.tokens ++ (spell links ++ ⟨.eof, o⟩ :: rest)
    parseWithin g .unbounded tokens = .ok (group first.tree links) ∧
      ReadAs g tokens (group first.tree links) := by
  intro tokens
  obtain ⟨n, rest', hspells⟩ := spells_chain hmax first links o rest
  have hrun : run g .unbounded tokens = .ok (group first.tree links, _) :=
    (run_eq_ok rfl rfl).mpr ⟨n, rest', hspells, rfl, rfl, rfl⟩
  have hunbounded : parseWithin g .unbounded tokens = .ok (group first.tree links) :=
    parseWithin_eq_ok.mpr ⟨_, hrun⟩
  exact ⟨hunbounded, readAs_iff.mpr hunbounded⟩

def Operand.identifier (g : Grammar) (name : String) (o : ℕ) : Operand g where
  tokens := [⟨.identifier name, o⟩]
  tree := .identifier name
  accepted := ⟨.standard, 4, ⟨[⟨.eof, o⟩], 0, 0, 1⟩, o, rfl, rfl⟩

theorem precedence?_standard_ne_maxValue (symbol : String) :
    Grammar.standard.precedence? symbol ≠ some Int32.maxValue := by
  intro h
  obtain ⟨op, hget, hop⟩ := Option.map_eq_some_iff.mp h
  have hall : ∀ entry ∈ Grammar.standard.binary, entry.2.precedence ≠ Int32.maxValue := by
    decide +kernel
  exact hall _ (Table.mem_of_get? hget) hop

/-- Subtraction goes from left to right, and multiplication goes first. -/
theorem parseTokens_chain_standard :
    let tokens : List Token := [⟨.identifier "a", 0⟩, ⟨.operator "-", 2⟩, ⟨.identifier "b", 4⟩,
      ⟨.operator "*", 6⟩, ⟨.identifier "c", 8⟩, ⟨.operator "-", 10⟩, ⟨.identifier "d", 12⟩,
      ⟨.eof, 13⟩]
    let tree : Expr := .binary "-" (.binary "-" (.identifier "a")
      (.binary "*" (.identifier "b") (.identifier "c"))) (.identifier "d")
    parseWithin .standard .unbounded tokens = .ok tree ∧
      Grammar.standard.parseTokens tokens = .ok tree := by
  intro tokens tree
  let link (symbol : String) (precedence : Int32)
      (h : Grammar.standard.precedence? symbol = some precedence) (o : ℕ) (name : String) :
      Link Grammar.standard := ⟨symbol, precedence, h, o, .identifier _ name (o + 2)⟩
  let links : List (Link Grammar.standard) :=
    [link "-" 30 rfl 2 "b", link "*" 40 rfl 6 "c", link "-" 30 rfl 10 "d"]
  have hgroup : group (Operand.identifier Grammar.standard "a" 0).tree links = tree := by
    simp [links, link, tree, group, cutLowest, Operand.identifier]
  have hrun : run .standard .unbounded tokens = .ok (tree, ⟨[⟨.eof, 13⟩], 0, 1, 4⟩) := rfl
  obtain ⟨hunbounded, hread⟩ := parseTokens_chain .standard precedence?_standard_ne_maxValue
    (.identifier _ "a" 0) links 13 []
  rw [hgroup] at hunbounded hread
  exact ⟨hunbounded, hread.parseTokens_eq_ok hrun (by decide) (by decide)⟩

end Cohort.Parser
