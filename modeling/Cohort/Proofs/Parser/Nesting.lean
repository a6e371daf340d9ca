import Cohort.Proofs.Parser.Spelling
import Mathlib

/-!
How deep a token list is nested, read off the tokens from front to back without parsing them: which
brackets, operands of unary operators and branches of conditionals are open around each of them.
The parser counts every one of these as a level, and the whole expression as one more.
-/
namespace Cohort

/-- What may be open around a token. -/
inductive Enclosure where
  /-- A group, an index or a filter, an array, an object, or arguments. -/
  | bracket
  /-- The operand of a unary operator. -/
  | operand
  /-- The branch before the colon of a conditional. -/
  | consequent
  /-- The branch after the colon of a conditional. -/
  | alternate
  deriving DecidableEq, Repr

namespace Enclosure

/-- Operands and last branches have no mark at their end. They end with what they stand in. -/
def isLoose : Enclosure → Bool
  | .operand | .alternate => true
  | .bracket | .consequent => false

def isBranch : Enclosure → Bool
  | .consequent | .alternate => true
  | .bracket | .operand => false

end Enclosure

def Mark.opensBracket : Mark → Bool
  | .leftParen | .leftBracket | .leftBrace => true
  | _ => false

def Mark.shutsBracket : Mark → Bool
  | .rightParen | .rightBracket | .rightBrace => true
  | _ => false

def TokenKind.isPlain : TokenKind → Bool
  | .mark .dot | .mark .pipe => true
  | .mark _ | .operator _ | .eof => false
  | _ => true

namespace Parser

theorem isPlain_of_atom? {kind : TokenKind} {tree : Expr} (h : atom? kind = some tree) :
    kind.isPlain = true := by
  cases kind <;> cases h <;> rfl

theorem isPlain_of_key? {kind : TokenKind} {key : String} (h : key? kind = some key) :
    kind.isPlain = true := by
  cases kind <;> cases h <;> rfl

/-- A place between two tokens: what is open there, innermost first, and whether an operand is due.
An operator where one is due is a unary operator. -/
structure Place where
  opened : List Enclosure
  due : Bool

namespace Place

def front : Place := ⟨[], true⟩

/-- What is still open when the innermost operands and last branches have ended. -/
def tight (p : Place) : List Enclosure := p.opened.dropWhile (·.isLoose)

/-- What is open around the token at a place. A token that ends something stands outside of it, and
so does one that begins something. -/
def around (p : Place) : TokenKind → List Enclosure
  | .operator _ => if p.due then p.opened else p.opened.dropWhile (· = .operand)
  | .mark .question => p.opened.dropWhile (· = .operand)
  | .mark .comma => p.tight
  | .mark .colon => if p.tight.head? = some .consequent then p.tight.tail else p.tight
  | .mark m => if m.shutsBracket then p.tight.tail else p.opened
  | _ => p.opened

/-- What begins after the token at a place. A colon begins a branch unless it stands behind the key
of an entry. -/
def begins (p : Place) : TokenKind → List Enclosure
  | .operator _ => if p.due then [.operand] else []
  | .mark .question => [.consequent]
  | .mark .colon => if p.tight.head? = some .consequent then [.alternate] else []
  | .mark m => if m.opensBracket then [.bracket] else []
  | _ => []

def next (p : Place) (kind : TokenKind) : Place :=
  ⟨p.begins kind ++ p.around kind, kind.operandFollows⟩

/-- The greatest number of enclosures of some kinds around a token before the first end marker. -/
def reach (counts : Enclosure → Bool) (p : Place) : List Token → ℕ
  | [] => 0
  | ⟨kind, _⟩ :: tokens =>
    if kind.isEof then 0
    else max ((p.around kind).countP counts) ((p.next kind).reach counts tokens)

def depth (p : Place) (tokens : List Token) : ℕ := p.reach (fun _ => true) tokens

section Step
variable {p : Place} {kind : TokenKind} {m : Mark} {σ π : List Enclosure} {due : Bool} {o : ℕ}
  {tokens : List Token}

theorem depth_cons (h : kind.isEof = false) :
    p.depth (⟨kind, o⟩ :: tokens) = max (p.around kind).length ((p.next kind).depth tokens) := by
  simp [depth, reach, h]

theorem depth_plain (h : kind.isPlain = true) :
    (⟨σ, due⟩ : Place).depth (⟨kind, o⟩ :: tokens)
      = max σ.length ((⟨σ, false⟩ : Place).depth tokens) := by
  cases kind with
  | mark m => cases m <;> cases h <;> rw [depth_cons rfl] <;> rfl
  | operator | eof => cases h
  | _ => rw [depth_cons rfl]; rfl

theorem depth_open (h : m.opensBracket = true) :
    (⟨σ, due⟩ : Place).depth (⟨.mark m, o⟩ :: tokens)
      = max σ.length ((⟨.bracket :: σ, true⟩ : Place).depth tokens) := by
  cases m <;> cases h <;> rw [depth_cons rfl] <;> rfl

theorem tight_append (hπ : ∀ e ∈ π, e.isLoose = true) :
    (⟨π ++ σ, due⟩ : Place).tight = (⟨σ, due⟩ : Place).tight :=
  List.dropWhile_append_of_pos hπ

theorem depth_shut (h : m.shutsBracket = true) (hπ : ∀ e ∈ π, e.isLoose = true) :
    (⟨π ++ .bracket :: σ, due⟩ : Place).depth (⟨.mark m, o⟩ :: tokens)
      = max σ.length ((⟨σ, false⟩ : Place).depth tokens) := by
  have htight : (⟨π ++ .bracket :: σ, due⟩ : Place).tight = .bracket :: σ := tight_append hπ
  cases m <;> cases h <;> rw [depth_cons rfl] <;>
    simp [next, around, begins, htight, Mark.shutsBracket,
      Mark.opensBracket, TokenKind.operandFollows]

theorem depth_comma (hπ : ∀ e ∈ π, e.isLoose = true) :
    (⟨π ++ .bracket :: σ, due⟩ : Place).depth (⟨.mark .comma, o⟩ :: tokens)
      = max (σ.length + 1) ((⟨.bracket :: σ, true⟩ : Place).depth tokens) := by
  have htight : (⟨π ++ .bracket :: σ, due⟩ : Place).tight = .bracket :: σ := tight_append hπ
  rw [depth_cons rfl]
  simp [next, around, begins, htight, Mark.opensBracket,
    TokenKind.operandFollows]

theorem depth_colon (hπ : ∀ e ∈ π, e.isLoose = true) :
    (⟨π ++ .consequent :: σ, due⟩ : Place).depth (⟨.mark .colon, o⟩ :: tokens)
      = max σ.length ((⟨.alternate :: σ, true⟩ : Place).depth tokens) := by
  have htight : (⟨π ++ .consequent :: σ, due⟩ : Place).tight = .consequent :: σ := tight_append hπ
  rw [depth_cons rfl]
  simp [next, around, begins, htight, TokenKind.operandFollows]

theorem depth_colon_key :
    (⟨.bracket :: σ, due⟩ : Place).depth (⟨.mark .colon, o⟩ :: tokens)
      = max (σ.length + 1) ((⟨.bracket :: σ, true⟩ : Place).depth tokens) := by
  have htight : (⟨.bracket :: σ, due⟩ : Place).tight = .bracket :: σ := rfl
  rw [depth_cons rfl]
  simp [next, around, begins, htight, TokenKind.operandFollows]

/-- The operands that are open at the front of what is open. -/
theorem dropWhile_operand (hπ : ∀ e ∈ π, e = .operand) (hσ : σ.head? ≠ some .operand) :
    (π ++ σ).dropWhile (· = .operand) = σ := by
  rw [List.dropWhile_append_of_pos (by simpa using hπ)]
  cases σ with
  | nil => rfl
  | cons e σ => exact List.dropWhile_cons_of_neg (by simpa using hσ)

theorem depth_question (hπ : ∀ e ∈ π, e = .operand) (hσ : σ.head? ≠ some .operand) :
    (⟨π ++ σ, due⟩ : Place).depth (⟨.mark .question, o⟩ :: tokens)
      = max σ.length ((⟨.consequent :: σ, true⟩ : Place).depth tokens) := by
  rw [depth_cons rfl]
  simp [next, around, begins, dropWhile_operand hπ hσ,
    TokenKind.operandFollows]

theorem depth_binary {symbol : String} (hπ : ∀ e ∈ π, e = .operand)
    (hσ : σ.head? ≠ some .operand) :
    (⟨π ++ σ, false⟩ : Place).depth (⟨.operator symbol, o⟩ :: tokens)
      = max σ.length ((⟨σ, true⟩ : Place).depth tokens) := by
  rw [depth_cons rfl]
  simp [next, around, begins, dropWhile_operand hπ hσ,
    TokenKind.operandFollows]

theorem depth_unary {symbol : String} :
    (⟨σ, true⟩ : Place).depth (⟨.operator symbol, o⟩ :: tokens)
      = max σ.length ((⟨.operand :: σ, true⟩ : Place).depth tokens) := by
  rw [depth_cons rfl]
  simp [next, around, begins, TokenKind.operandFollows]

end Step

end Place

/-- How many enclosures of some kinds are nested inside one another around some token. -/
def nesting (counts : Enclosure → Bool) (tokens : List Token) : ℕ :=
  Place.front.reach counts tokens

section Phrases
variable {g : Grammar} {form : Form} {before after : List Token} {tree : Expr} {n : ℕ}

/-- From a place on, the depth is that of a phrase or that of what comes after it, where besides
what was open before the phrase there may be enclosures left that a predicate holds of. -/
def Covers (leaves : Enclosure → Prop) (σ : List Enclosure) (p : Place) (before after : List Token)
    (depth : ℕ) : Prop :=
  ∃ π, (∀ e ∈ π, leaves e) ∧
    p.depth before = max depth ((⟨π ++ σ, false⟩ : Place).depth after)

/-- What the levels of a phrase mean for the depth from its first token on. An expression is a level
itself, and that is not around its tokens. Lists and fields begin within their bracket. With tails,
what they go on after reaches at least as deep as what is open around it. -/
def Form.Covered (before after : List Token) (n : ℕ) : Form → Prop
  | .expression => ∀ σ : List Enclosure, σ.head? ≠ some .operand →
    ∃ m, n = m + 1 ∧ Covers (·.isLoose = true) σ ⟨σ, true⟩ before after (σ.length + m)
  | .conditional => ∀ σ : List Enclosure, σ.head? ≠ some .operand →
    Covers (·.isLoose = true) σ ⟨σ, true⟩ before after (σ.length + n)
  | .binary _ => ∀ σ : List Enclosure, σ.head? ≠ some .operand →
    Covers (· = .operand) σ ⟨σ, true⟩ before after (σ.length + n)
  | .binaryTail _ _ => ∀ σ π : List Enclosure, σ.head? ≠ some .operand → (∀ e ∈ π, e = .operand) →
    ∃ π' : List Enclosure, (∀ e ∈ π', e = .operand) ∧
      max σ.length ((⟨π ++ σ, false⟩ : Place).depth before)
        = max (σ.length + n) ((⟨π' ++ σ, false⟩ : Place).depth after)
  | .unary => ∀ σ, Covers (· = .operand) σ ⟨σ, true⟩ before after (σ.length + n)
  | .suffixed | .primary => ∀ σ : List Enclosure, (⟨σ, true⟩ : Place).depth before
      = max (σ.length + n) ((⟨σ, false⟩ : Place).depth after)
  | .suffixes _ => ∀ σ : List Enclosure, max σ.length ((⟨σ, false⟩ : Place).depth before)
      = max (σ.length + n) ((⟨σ, false⟩ : Place).depth after)
  | .list close => close.shutsBracket = true → ∀ σ : List Enclosure,
    (⟨.bracket :: σ, true⟩ : Place).depth before
      = max (σ.length + n) ((⟨σ, false⟩ : Place).depth after)
  | .fields => ∀ σ : List Enclosure, (⟨.bracket :: σ, true⟩ : Place).depth before
      = max (σ.length + n) ((⟨σ, false⟩ : Place).depth after)

theorem isLoose_of_eq_operand {e : Enclosure} (h : e = .operand) : e.isLoose = true := by
  rw [h]
  rfl

namespace Form.Covered
open Place
variable {mid mid' : List Token} {m : Mark} {o o' o'' n' n₁ n₂ n₃ : ℕ} {least least' : Int32}
  {left right : Expr} {symbol name key : String} {kind kind' : TokenKind}

theorem pos (h : Form.expression.Covered before after n) : 0 < n := by
  obtain ⟨k, rfl, -⟩ := h [] (by simp)
  exact k.succ_pos

theorem shut (h : Form.expression.Covered before (⟨.mark m, o⟩ :: after) n)
    (hm : m.shutsBracket = true) (σ : List Enclosure) :
    (⟨.bracket :: σ, true⟩ : Place).depth before
      = max (σ.length + n) ((⟨σ, false⟩ : Place).depth after) := by
  obtain ⟨k, rfl, π, hπ, hdepth⟩ := h (.bracket :: σ) (by simp)
  rw [hdepth, depth_shut hm hπ]
  simp only [List.length_cons]
  omega

theorem comma (h : Form.expression.Covered before (⟨.mark .comma, o⟩ :: after) n)
    (σ : List Enclosure) :
    (⟨.bracket :: σ, true⟩ : Place).depth before
      = max (σ.length + n) ((⟨.bracket :: σ, true⟩ : Place).depth after) := by
  obtain ⟨k, rfl, π, hπ, hdepth⟩ := h (.bracket :: σ) (by simp)
  rw [hdepth, depth_comma hπ]
  simp only [List.length_cons]
  omega

theorem test (h : (Form.binary least).Covered before after n) :
    Form.conditional.Covered before after n := by
  intro σ hσ
  obtain ⟨π, hπ, hdepth⟩ := h σ hσ
  exact ⟨π, fun e he => isLoose_of_eq_operand (hπ e he), hdepth⟩

/-- Nothing marks the end of the last branch, so that it is left open. -/
theorem conditional (h₁ : (Form.binary least).Covered before (⟨.mark .question, o⟩ :: mid) n₁)
    (h₂ : Form.expression.Covered mid (⟨.mark .colon, o'⟩ :: mid') n₂)
    (h₃ : Form.expression.Covered mid' after n₃) :
    Form.conditional.Covered before after (max (max n₁ n₂) n₃) := by
  intro σ hσ
  obtain ⟨π, hπ, htest⟩ := h₁ σ hσ
  obtain ⟨m₂, rfl, π₂, hπ₂, hconsequent⟩ := h₂ (.consequent :: σ) (by simp)
  obtain ⟨m₃, rfl, π₃, hπ₃, halternate⟩ := h₃ (.alternate :: σ) (by simp)
  refine ⟨π₃ ++ [.alternate], by simpa [or_imp, forall_and, Enclosure.isLoose] using hπ₃, ?_⟩
  rw [depth_question hπ hσ, hconsequent, depth_colon hπ₂, halternate] at htest
  rw [htest, List.append_assoc, List.singleton_append]
  simp only [List.length_cons]
  omega

theorem binary (h : Form.unary.Covered before mid n)
    (h' : (Form.binaryTail least left).Covered mid after n') :
    (Form.binary least).Covered before after (max n n') := by
  intro σ hσ
  obtain ⟨π, hπ, hleft⟩ := h σ
  obtain ⟨π', hπ', htail⟩ := h' σ π hσ hπ
  exact ⟨π', hπ', by omega⟩

/-- What is left open before an operator ends there, and the right operand leaves its own. -/
theorem binaryStep (h : (Form.binary least').Covered mid mid' n)
    (h' : (Form.binaryTail least right).Covered mid' after n') :
    (Form.binaryTail least left).Covered (⟨.operator symbol, o⟩ :: mid) after (max n n') := by
  intro σ π hσ hπ
  obtain ⟨π₁, hπ₁, hright⟩ := h σ hσ
  obtain ⟨π', hπ', htail⟩ := h' σ π₁ hσ hπ₁
  refine ⟨π', hπ', ?_⟩
  rw [depth_binary hπ hσ]
  omega

theorem unary (h : Form.unary.Covered mid after n) :
    Form.unary.Covered (⟨.operator symbol, o⟩ :: mid) after (n + 1) := by
  intro σ
  obtain ⟨π, hπ, hoperand⟩ := h (.operand :: σ)
  refine ⟨π ++ [.operand], by simpa [or_imp, forall_and] using hπ, ?_⟩
  rw [depth_unary, hoperand, List.append_assoc, List.singleton_append]
  simp only [List.length_cons]
  omega

theorem suffixed (h : Form.primary.Covered before mid n)
    (h' : (Form.suffixes left).Covered mid after n') :
    Form.suffixed.Covered before after (max n n') := by
  intro σ
  have hsubject := h σ
  have htail := h' σ
  omega

/-- A suffix of two tokens with nothing in it. -/
theorem named (h : (Form.suffixes right).Covered mid after n) (hkind : kind.isPlain = true)
    (hkind' : kind'.isPlain = true) :
    (Form.suffixes left).Covered (⟨kind, o⟩ :: ⟨kind', o'⟩ :: mid) after n := by
  intro σ
  have htail := h σ
  rw [depth_plain hkind, depth_plain hkind']
  omega

theorem bracket (h : Form.expression.Covered mid (⟨.mark .rightBracket, o'⟩ :: mid') n)
    (h' : (Form.suffixes right).Covered mid' after n') :
    (Form.suffixes left).Covered (⟨.mark .leftBracket, o⟩ :: mid) after (max n n') := by
  intro σ
  have htail := h' σ
  rw [depth_open rfl, h.shut rfl σ]
  omega

theorem call (h : (Form.list .rightParen).Covered mid mid' n)
    (h' : (Form.suffixes right).Covered mid' after n') :
    (Form.suffixes left).Covered
      (⟨.mark .pipe, o⟩ :: ⟨.identifier name, o'⟩ :: ⟨.mark .leftParen, o''⟩ :: mid) after
      (max n n') := by
  intro σ
  have htail := h' σ
  rw [depth_plain rfl, depth_plain rfl, depth_open rfl, h rfl σ]
  omega

/-- What stands in a bracket up to its end. -/
theorem opened (h : ∀ σ : List Enclosure, (⟨.bracket :: σ, true⟩ : Place).depth mid
      = max (σ.length + n) ((⟨σ, false⟩ : Place).depth after)) (hm : m.opensBracket = true) :
    Form.primary.Covered (⟨.mark m, o⟩ :: mid) after n := by
  intro σ
  rw [depth_open hm, h σ]
  omega

theorem listItem {close : Mark} (h : Form.expression.Covered before (⟨.mark .comma, o⟩ :: mid) n)
    (h' : (Form.list close).Covered mid after n') :
    (Form.list close).Covered before after (max n n') := by
  intro hclose σ
  rw [h.comma σ, h' hclose σ]
  omega

theorem fieldsLast (hkind : kind.isPlain = true)
    (h : Form.expression.Covered mid (⟨.mark .rightBrace, o''⟩ :: after) n) :
    Form.fields.Covered (⟨kind, o⟩ :: ⟨.mark .colon, o'⟩ :: mid) after n := by
  intro σ
  have hlevel := h.pos
  rw [depth_plain hkind, depth_colon_key, h.shut rfl σ]
  simp only [List.length_cons]
  omega

theorem fieldsItem (hkind : kind.isPlain = true)
    (h : Form.expression.Covered mid (⟨.mark .comma, o''⟩ :: mid') n)
    (h' : Form.fields.Covered mid' after n') :
    Form.fields.Covered (⟨kind, o⟩ :: ⟨.mark .colon, o'⟩ :: mid) after (max n n') := by
  intro σ
  have hlevel := h.pos
  rw [depth_plain hkind, depth_colon_key, h.comma σ, h' σ]
  simp only [List.length_cons]
  omega

end Form.Covered

open Form in
/-- What a phrase adds to the depth are its levels, whatever is open around it. On the way it has to
be known what a phrase leaves open behind it, since the next token shuts that. -/
theorem Reads.covered (h : Reads g form before after tree n) : form.Covered before after n := by
  induction h with
  | expression _ ih => exact fun σ hσ => ⟨_, rfl, ih σ hσ⟩
  | test _ _ ih => exact Covered.test ih
  | conditional _ _ _ ih₁ ih₂ ih₃ => exact Covered.conditional ih₁ ih₂ ih₃
  | binary _ _ ih ih' => exact Covered.binary ih ih'
  | binaryStop => exact fun σ π _ hπ => ⟨π, hπ, rfl⟩
  | binaryStep _ _ _ _ ih ih' => exact Covered.binaryStep ih ih'
  | unary _ _ ih => exact Covered.unary ih
  | operand _ _ ih => exact fun σ => ⟨[], List.forall_mem_nil _, ih σ⟩
  | suffixed _ _ ih ih' => exact Covered.suffixed ih ih'
  | suffixStop => exact fun σ => rfl
  | member _ ih | transform _ _ ih => exact Covered.named ih rfl rfl
  | bracket _ _ ih ih' => exact Covered.bracket ih ih'
  | call _ _ ih ih' => exact Covered.call ih ih'
  | atom hatom => exact fun σ => Place.depth_plain (isPlain_of_atom? hatom)
  | relative =>
    intro σ
    rw [Place.depth_plain rfl, Place.depth_plain rfl]
    omega
  | group _ ih => exact Covered.opened (ih.shut rfl) rfl
  | array _ ih => exact Covered.opened (ih rfl) rfl
  | object _ ih => exact Covered.opened ih rfl
  | listEnd => exact fun hclose σ => Place.depth_shut (π := []) hclose (List.forall_mem_nil _)
  | listLast _ _ ih => exact fun hclose σ => ih.shut hclose σ
  | listItem _ _ _ _ ih ih' => exact Covered.listItem ih ih'
  | fieldsEnd => exact fun σ => Place.depth_shut (π := []) rfl (List.forall_mem_nil _)
  | fieldsLast named _ ih => exact Covered.fieldsLast (isPlain_of_key? named) ih
  | fieldsItem named _ _ ih ih' => exact Covered.fieldsItem (isPlain_of_key? named) ih ih'

end Phrases

section Whole
variable {g : Grammar} {tokens : List Token} {tree : Expr} {s : State}

theorem reach_append_eof (counts : Enclosure → Bool) (p : Place) (tokens : List Token) (o : ℕ) :
    p.reach counts (tokens ++ [⟨.eof, o⟩]) = p.reach counts tokens := by
  induction tokens generalizing p with
  | nil => rfl
  | cons token tokens ih => simp only [List.cons_append, Place.reach, ih]

theorem depth_of_isEof {p : Place} (h : (current tokens).kind.isEof = true) :
    p.depth tokens = 0 := by
  cases tokens with
  | nil => rfl
  | cons token tokens => exact if_pos h

/-- Besides what is open around the tokens, the parser counts the whole expression. -/
theorem deepest_of_run (h : run g .unbounded tokens = .ok (tree, s)) :
    s.deepest = nesting (fun _ => true) tokens + 1 := by
  obtain ⟨n, rest, ⟨after, hreads, heof, -⟩, -, -, rfl⟩ := (run_eq_ok rfl rfl).mp h
  obtain ⟨m, rfl, π, -, hdepth⟩ := hreads.covered [] (by simp)
  have hnesting : nesting (fun _ => true) tokens = Place.front.depth (closed tokens) :=
    (reach_append_eof _ _ _ _).symm
  have hdepth : Place.front.depth (closed tokens) = _ := hdepth
  rw [depth_of_isEof heof] at hdepth
  rw [hnesting, hdepth]
  simp

/-- A token list that spells a tree is nested too deep exactly if the tree is more than 256 high or
a token stands within 64 brackets, operands of unary operators and branches of conditionals, since
the whole expression is a level besides. So it may be found too deep although it is not as high and
has no more than 64 brackets and operands inside one another, but only if branches or the level of
the whole expression make up for what is missing. -/
theorem parseTokens_nesting (h : parseWithin g .unbounded tokens = .ok tree) :
    ((∃ o, g.parseTokens tokens = .error (.nestingTooDeep o)) ↔
      256 < tree.height ∨ 64 ≤ nesting (fun _ => true) tokens) ∧
    (((∃ o, g.parseTokens tokens = .error (.nestingTooDeep o)) →
        256 < tree.height ∨ 64 < nesting (fun e => !e.isBranch) tokens) ↔
      256 < tree.height ∨ 64 < nesting (fun e => !e.isBranch) tokens ∨
        nesting (fun _ => true) tokens < 64) := by
  obtain ⟨s, hrun⟩ := parseWithin_eq_ok.mp h
  have hdeepest := deepest_of_run hrun
  have hfilter := parseTokens_of_run hrun
  have hexact : (∃ o, g.parseTokens tokens = .error (.nestingTooDeep o)) ↔
      256 < tree.height ∨ 64 ≤ nesting (fun _ => true) tokens := by
    split_ifs at hfilter with hwithin
    · constructor
      · rintro ⟨o, htooDeep⟩
        cases hfilter.symm.trans htooDeep
      · intro hbeyond
        omega
    · exact iff_of_true hfilter (by omega)
  refine ⟨hexact, ?_⟩
  rw [hexact]
  omega

/-- A negated group with a conditional in it. -/
theorem parseTokens_nesting_standard :
    let tokens : List Token := [⟨.operator "!", 0⟩, ⟨.mark .leftParen, 1⟩, ⟨.identifier "a", 2⟩,
      ⟨.mark .question, 4⟩, ⟨.identifier "b", 6⟩, ⟨.mark .colon, 8⟩, ⟨.identifier "c", 10⟩,
      ⟨.mark .rightParen, 11⟩, ⟨.eof, 12⟩]
    let tree : Expr := .unary "!"
      (.conditional (.identifier "a") (.identifier "b") (.identifier "c"))
    parseWithin .standard .unbounded tokens = .ok tree ∧ nesting (fun _ => true) tokens = 3 ∧
      ¬ ∃ o, Grammar.standard.parseTokens tokens = .error (.nestingTooDeep o) := by
  intro tokens tree
  have hparse : parseWithin .standard .unbounded tokens = .ok tree := rfl
  have hnesting : nesting (fun _ => true) tokens = 3 := by decide
  have hheight : tree.height = 3 := by decide
  refine ⟨hparse, hnesting, fun htooDeep => ?_⟩
  have hbeyond := (parseTokens_nesting hparse).1.mp htooDeep
  omega

lemma exists_of_measures {height deepest : ℕ}
    (h : (run g .unbounded tokens).toOption.map (fun result => (result.1.height, result.2.deepest))
      = some (height, deepest)) (hdeep : 64 < deepest) :
    (∃ tree, parseWithin g .unbounded tokens = .ok tree ∧ tree.height = height) ∧
      ∃ o, g.parseTokens tokens = .error (.nestingTooDeep o) := by
  obtain ⟨tree, s, hrun, hheight, hdeepest⟩ := exists_run_eq_ok h
  have hfilter := parseTokens_of_run hrun
  rw [if_neg (by omega)] at hfilter
  exact ⟨⟨tree, parseWithin_eq_ok.mpr ⟨s, hrun⟩, hheight⟩, hfilter⟩

/-- Sixty-four groups around a number, and sixty-four conditionals in a row, each of them in the
last branch of the one before. -/
theorem parseTokens_nesting_groups :
    let groups : List Token := (List.range 64).map (⟨.mark .leftParen, ·⟩) ++
      ⟨.int 1, 64⟩ :: (List.range 64).map fun i => ⟨.mark .rightParen, 65 + i⟩
    let chain : List Token := (List.range 64).flatMap (fun i => [⟨.identifier "a", 4 * i⟩,
      ⟨.mark .question, 4 * i + 1⟩, ⟨.identifier "b", 4 * i + 2⟩, ⟨.mark .colon, 4 * i + 3⟩]) ++
      [⟨.identifier "c", 256⟩]
    ((∃ tree, parseWithin .standard .unbounded groups = .ok tree ∧ tree.height = 1) ∧
      nesting (fun e => !e.isBranch) groups = 64 ∧
      ∃ o, Grammar.standard.parseTokens groups = .error (.nestingTooDeep o)) ∧
    (∃ tree, parseWithin .standard .unbounded chain = .ok tree ∧ tree.height = 65) ∧
      nesting (fun e => !e.isBranch) chain = 0 ∧
      ∃ o, Grammar.standard.parseTokens chain = .error (.nestingTooDeep o) := by
  intro groups chain
  have hgroups : (run .standard .unbounded groups).toOption.map
      (fun result => (result.1.height, result.2.deepest)) = some (1, 65) := by decide +kernel
  have hchain : (run .standard .unbounded chain).toOption.map
      (fun result => (result.1.height, result.2.deepest)) = some (65, 65) := by decide +kernel
  obtain ⟨hparse, htooDeep⟩ := exists_of_measures hgroups (by decide)
  obtain ⟨hparse', htooDeep'⟩ := exists_of_measures hchain (by decide)
  exact ⟨⟨hparse, by decide +kernel, htooDeep⟩, hparse', by decide +kernel, htooDeep'⟩

end Whole

end Parser

end Cohort
