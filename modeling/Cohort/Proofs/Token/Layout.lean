import Cohort.Expr.Eval
import Cohort.Proofs.Grammar.Conservative
import Cohort.Proofs.Parser.Offsets
import Cohort.Proofs.Token.Scans
import Mathlib

/-!
Layout means nothing. A token looks at what follows it up to the next blank at most, so other blanks
between tokens leave the tokens what they are, and with them the tree and what comes out of it.
-/
namespace Cohort
open Cohort.Text (Ends isBlank isBlank_of_isDigit isBlank_of_isNameChar isBlank_of_isNameStart
  isDigit not_isDigit_of_isBlank)
open Cohort.Number (Digits minus pointed)

namespace Lexer

/-- Whatever a text begins with up to its first blank, the other one begins with too. -/
def Echoes (text' text : List Char) : Prop :=
  ∀ front, (∀ c ∈ front, isBlank c = false) → front <+: text' → front <+: text

section Echoes
variable {text text' front gap gap' after : List Char} {p : Char → Bool} {expected : Bool}

theorem Echoes.append (h : Echoes text' text) (front : List Char) :
    Echoes (front ++ text') (front ++ text) := by
  induction front with
  | nil => exact h
  | cons c front ih =>
    intro word hword hstarts
    cases word with
    | nil => exact List.nil_prefix
    | cons d word =>
      rw [List.cons_append, List.cons_prefix_cons] at hstarts ⊢
      exact ⟨hstarts.1, ih word (List.forall_mem_cons.mp hword).2 hstarts.2⟩

/-- Only that there are blanks matters, not which ones. -/
theorem echoes_of_gap (hgap' : ∀ c ∈ gap', isBlank c = true) (hempty : gap' = [] → gap = [])
    (after : List Char) : Echoes (gap' ++ after) (gap ++ after) := by
  intro front hfront hstarts
  rcases gap' with _ | ⟨b, blanks⟩
  · rwa [hempty rfl]
  · rcases front with _ | ⟨c, front⟩
    · exact List.nil_prefix
    · obtain ⟨rfl, -⟩ := List.cons_prefix_cons.mp hstarts
      cases (hfront c List.mem_cons_self).symm.trans (hgap' c List.mem_cons_self)

theorem Echoes.ends (h : Echoes text' text) (hp : ∀ c, isBlank c = true → p c = false)
    (hends : Ends p text) : Ends p text' := by
  intro c hc
  obtain ⟨rest, rfl⟩ := List.head?_eq_some_iff.mp hc
  by_contra hpc
  have hblank : isBlank c = false := Bool.eq_false_of_not_eq_true fun hblank => hpc (hp c hblank)
  obtain ⟨rest, rfl⟩ := h [c] (List.forall_mem_singleton.mpr hblank) ⟨_, rfl⟩
  exact hpc (hends c rfl)

theorem Echoes.followsNumber (h : Echoes text' text) {fraction : Option (List Char)}
    (hfollows : FollowsNumber fraction text) : FollowsNumber fraction text' where
  endsNumber := h.ends (fun _ => not_isDigit_of_isBlank) hfollows.endsNumber
  noFraction := by
    rintro hfraction d rest rfl
    by_contra hdigit
    have hblank := isBlank_of_isDigit (Bool.of_not_eq_false hdigit)
    obtain ⟨rest, hrest⟩ := h ['.', d]
      (List.forall_mem_cons.mpr ⟨rfl, List.forall_mem_singleton.mpr hblank⟩) ⟨_, rfl⟩
    exact hdigit (hfollows.noFraction hfraction hrest.symm)

theorem Echoes.beginsLiteral (h : Echoes text' text) (hbegins : BeginsLiteral expected text') :
    BeginsLiteral expected text := by
  rcases text' with _ | ⟨c, rest⟩
  · exact hbegins.elim
  have hcons (hblank : isBlank c = false) : ∃ rest, text = c :: rest := by
    obtain ⟨rest, rfl⟩ := h [c] (List.forall_mem_singleton.mpr hblank) ⟨_, rfl⟩
    exact ⟨rest, rfl⟩
  rcases hbegins with hquote | hdigit | ⟨rfl, hexpected, hdigit⟩
  · obtain ⟨rest, rfl⟩ := hcons (by rcases hquote with rfl | rfl <;> rfl)
    exact .inl hquote
  · obtain ⟨rest, rfl⟩ := hcons (isBlank_of_isDigit hdigit)
    exact .inr (.inl hdigit)
  · obtain ⟨d, hd, hdigit⟩ := (Option.any_eq_true ..).mp hdigit
    obtain ⟨rest, rfl⟩ := List.head?_eq_some_iff.mp hd
    obtain ⟨rest, rfl⟩ := h ['-', d] (List.forall_mem_cons.mpr
      ⟨rfl, List.forall_mem_singleton.mpr (isBlank_of_isDigit hdigit)⟩) ⟨_, rfl⟩
    exact .inr (.inr ⟨rfl, hexpected, hdigit⟩)

end Echoes

section Tokens
variable {lexicon : Lexicon} {expected : Bool} {kind : TokenKind} {sign : String}
  {text text' spelling after after' : List Char}

/-- A token is taken as well before a text that echoes the one after it, unless some sign begins
with it and goes on there. -/
theorem Taken.of_echoes (h : Taken lexicon expected kind spelling after)
    (hecho : Echoes after' after)
    (hsigns : ∀ sign ∈ lexicon.signs, sign.toList <+: spelling ++ after' →
      sign.toList <+: spelling ++ after) :
    Taken lexicon expected kind spelling after' := by
  have hnone (h : longestPrefix? (spelling ++ after) lexicon.signs = none) :
      longestPrefix? (spelling ++ after') lexicon.signs = none :=
    longestPrefix?_eq_none_iff.mpr fun sign hmem hstarts =>
      longestPrefix?_eq_none_iff.mp h sign hmem (hsigns sign hmem hstarts)
  cases h with
  | string hquote hbody => exact .string hquote hbody
  | number hminus hwhole hfraction hafter =>
    exact .number hminus hwhole hfraction (hecho.followsNumber hafter)
  | @sign sign _ hne hliteral hsign =>
    obtain ⟨hmem, -, hlongest⟩ := longestPrefix?_eq_some_iff.mp hsign
    refine .sign hne (mt (hecho.append sign.toList).beginsLiteral hliteral) ?_
    exact longestPrefix?_eq_some_iff.mpr
      ⟨hmem, List.prefix_append _ _, fun x hx hstarts => hlongest x hx (hsigns x hx hstarts)⟩
  | name hnosign hstart hword hafter =>
    have hends := hecho.ends (fun _ => Text.isNameChar_of_isBlank) hafter
    exact .name (hnone hnosign) hstart hword hends
  | mark hnosign => exact .mark (hnone hnosign)

theorem isBlank_of_mem_number {negative : Bool} {whole : List Char} {fraction : Option (List Char)}
    (hwhole : Digits whole) (hfraction : ∀ digits ∈ fraction, Digits digits) :
    ∀ c ∈ minus negative ++ (whole ++ pointed fraction), isBlank c = false := by
  intro c hc
  rcases List.mem_append.mp hc with hminus | hc
  · cases negative <;> simp [minus] at hminus
    exact hminus ▸ rfl
  rcases List.mem_append.mp hc with hmem | hpointed
  · exact isBlank_of_isDigit (hwhole.2 c hmem)
  · rcases fraction with _ | digits
    · cases hpointed
    · rcases List.mem_cons.mp hpointed with rfl | hmem
      · rfl
      · exact isBlank_of_isDigit ((hfraction digits rfl).2 c hmem)

/-- A token does not end with a blank, if no sign has one. -/
theorem Taken.isBlank_getLast (h : Taken lexicon expected kind spelling after)
    (hblanks : ∀ sign ∈ lexicon.signs, ∀ c ∈ sign.toList, isBlank c = false) :
    ∀ c ∈ spelling.getLast?, isBlank c = false := by
  intro c hc
  cases h with
  | @string quote body s _ hquote hbody =>
    rw [← List.cons_append, List.getLast?_concat] at hc
    cases hc
    rcases hquote with rfl | rfl <;> rfl
  | number _ hwhole hfraction =>
    exact isBlank_of_mem_number hwhole hfraction c (List.mem_of_getLast? hc)
  | sign _ _ hsign =>
    exact hblanks _ (longestPrefix?_eq_some_iff.mp hsign).1 c (List.mem_of_getLast? hc)
  | name _ hstart hword =>
    rcases List.mem_cons.mp (List.mem_of_getLast? hc) with rfl | hmem
    · exact isBlank_of_isNameStart hstart
    · exact isBlank_of_isNameChar (hword c hmem)
  | @mark m =>
    cases hc
    cases m <;> rfl

end Tokens

section Texts
variable {lexicon : Lexicon} {o : ℕ} {expected : Bool} {text before gap gap' after : List Char}
  {tokens : List Token}

/-- Where a text stands makes no difference to what its tokens are. -/
theorem Scans.shift (h : Scans lexicon o expected text tokens) (o' : ℕ) :
    ∃ tokens', Scans lexicon o' expected text tokens' ∧ Parser.SameKinds tokens tokens' := by
  induction h generalizing o' with
  | eof hgap => exact ⟨_, .eof hgap, rfl⟩
  | token hgap hhead htaken _ ih =>
    obtain ⟨tokens', hscan, hkinds⟩ := ih _
    exact ⟨_, .token hgap hhead htaken hscan, congrArg (_ :: ·) hkinds⟩

/-- What ends with no blank and begins a text before the end of some blanks in it ends before
them. -/
theorem exists_append_of_le {front rest : List Char}
    (heq : front ++ rest = before ++ (gap ++ after))
    (hle : front.length ≤ before.length + gap.length)
    (hlast : ∀ c ∈ front.getLast?, isBlank c = false) (hgap : ∀ c ∈ gap, isBlank c = true) :
    ∃ mid, before = front ++ mid ∧ rest = mid ++ (gap ++ after) := by
  rcases List.append_eq_append_iff.mp heq with ⟨mid, hbefore, hrest⟩ | ⟨mid, rfl, hgaps⟩
  · exact ⟨mid, hbefore, hrest⟩
  · rw [List.length_append, Nat.add_le_add_iff_left] at hle
    have hmid : mid <+: gap := List.prefix_of_prefix_length_le ⟨_, hgaps.symm⟩ ⟨_, rfl⟩ hle
    rcases List.eq_nil_or_concat' mid with rfl | ⟨mid, c, rfl⟩
    · exact ⟨[], by simp, hgaps.symm⟩
    · have hblank := hgap c (hmid.subset List.mem_concat_self)
      rw [← List.append_assoc, List.getLast?_concat] at hlast
      cases (hlast c rfl).symm.trans hblank

/-- Any blanks may stand before the first token. -/
theorem Scans.relaid_head (h : Scans lexicon o expected (before ++ (gap ++ after)) tokens)
    (hgap' : ∀ c ∈ gap', isBlank c = true)
    (hplace : ∀ first ∈ tokens.head?, first.offset = o + (before.length + gap.length)) :
    ∃ tokens', Scans lexicon o expected (before ++ (gap' ++ after)) tokens' ∧
      Parser.SameKinds tokens tokens' := by
  rw [← List.append_assoc] at h ⊢
  rw [← List.length_append] at hplace
  have hall (hfront : ∀ c ∈ before ++ gap, isBlank c = true) :
      ∀ c ∈ before ++ gap', isBlank c = true :=
    List.forall_mem_append.mpr ⟨(List.forall_mem_append.mp hfront).1, hgap'⟩
  generalize htext : before ++ gap ++ after = text at h
  cases h with
  | eof hblank =>
    have hlength : o + text.length = o + (before ++ gap).length := hplace _ rfl
    rw [← htext, List.length_append] at hlength
    obtain rfl := List.eq_nil_of_length_eq_zero (show after.length = 0 by omega)
    rw [List.append_nil] at htext ⊢
    exact ⟨_, .eof (hall (htext ▸ hblank)), rfl⟩
  | token hfront hhead htaken hrest =>
    obtain ⟨rfl, rfl⟩ := List.append_inj htext (Nat.add_left_cancel (hplace _ rfl)).symm
    obtain ⟨tokens', hscan, hkinds⟩ := hrest.shift _
    exact ⟨_, .token (hall hfront) hhead htaken hscan, congrArg (_ :: ·) hkinds⟩

/-- Tokens stay what they are when the blanks before one of them are replaced by others. -/
theorem Scans.relaid (h : Scans lexicon o expected text tokens)
    (hblanks : ∀ sign ∈ lexicon.signs, ∀ c ∈ sign.toList, isBlank c = false)
    (hgap : ∀ c ∈ gap, isBlank c = true) (hgap' : ∀ c ∈ gap', isBlank c = true)
    (hkeep : gap' = [] → gap = []) (htext : text = before ++ (gap ++ after))
    (hplace : ∃ token ∈ tokens, token.offset = o + (before.length + gap.length)) :
    ∃ tokens', Scans lexicon o expected (before ++ (gap' ++ after)) tokens' ∧
      Parser.SameKinds tokens tokens' := by
  induction h generalizing before with
  | @eof o expected blanks hall =>
    obtain ⟨token, hmem, hoffset⟩ := hplace
    obtain rfl := List.mem_singleton.mp hmem
    subst htext
    exact (Scans.eof hall).relaid_head hgap' (by rintro first ⟨⟩; exact hoffset)
  | @token o expected front kind spelling rest tokens hfront hhead htaken hrest ih =>
    obtain ⟨token, hmem, hoffset⟩ := hplace
    rcases List.mem_cons.mp hmem with rfl | hmem
    · have hscan := Scans.token hfront hhead htaken hrest
      rw [htext] at hscan
      exact hscan.relaid_head hgap' (by rintro first ⟨⟩; exact hoffset)
    · have hle : (front ++ spelling).length ≤ before.length + gap.length := by
        have := hrest.le_offset token hmem
        rw [List.length_append]
        omega
      have hlast : ∀ c ∈ (front ++ spelling).getLast?, isBlank c = false := by
        rw [List.getLast?_append_of_ne_nil _ htaken.ne_nil]
        exact htaken.isBlank_getLast hblanks
      obtain ⟨mid, rfl, rfl⟩ :=
        exists_append_of_le ((List.append_assoc ..).trans htext) hle hlast hgap
      have hplace : token.offset = o + front.length + spelling.length
          + (mid.length + gap.length) := by
        rw [hoffset, List.length_append, List.length_append]
        omega
      obtain ⟨tokens', hscan, hkinds⟩ := ih rfl ⟨token, hmem, hplace⟩
      have hecho : Echoes (mid ++ (gap' ++ after)) (mid ++ (gap ++ after)) :=
        (echoes_of_gap hgap' hkeep after).append mid
      have htaken' := htaken.of_echoes hecho fun sign hsign hstarts =>
        hecho.append spelling sign.toList (hblanks sign hsign) hstarts
      rw [List.append_assoc, List.append_assoc]
      exact ⟨_, .token hfront hhead htaken' hscan, congrArg (_ :: ·) hkinds⟩

end Texts

end Lexer

namespace Grammar
variable {g : Grammar} {text text' : String} {tokens : List Token}

/-- Blanks before some token of a text are replaced by others. There may have been none, but some
are not replaced by none. -/
inductive Relaid (g : Grammar) (text text' : String) : Prop where
  | intro {tokens token before gap gap' after} (htokens : g.tokenize text = .ok tokens)
    (htoken : token ∈ tokens) (htext : text.toList = before ++ (gap ++ after))
    (hplace : token.offset = before.length + gap.length)
    (hgap : ∀ c ∈ gap, isBlank c = true) (hgap' : ∀ c ∈ gap', isBlank c = true)
    (hkeep : gap' = [] → gap = []) (htext' : text'.toList = before ++ (gap' ++ after))

def BlankFree (g : Grammar) : Prop :=
  ∀ symbol, g.isSymbol symbol = true → ∀ c ∈ symbol.toList, isBlank c = false

theorem Relaid.exists_tokenize_eq_ok (h : g.Relaid text text') (hsymbols : g.BlankFree)
    (htokens : g.tokenize text = .ok tokens) :
    ∃ tokens', g.tokenize text' = .ok tokens' ∧ Parser.SameKinds tokens tokens' := by
  obtain ⟨htokens', htoken, htext, hplace, hgap, hgap', hkeep, htext'⟩ := h
  obtain rfl := Except.ok.inj (htokens.symm.trans htokens')
  have hscans := Lexer.scans_of_scanFrom g.empty_not_mem_signs htokens
  have hblanks : ∀ sign ∈ g.lexicon.signs, ∀ c ∈ sign.toList, isBlank c = false :=
    fun sign hsign => hsymbols sign (mem_symbols.mp (List.mem_filter.mp hsign).1)
  obtain ⟨tokens', hscans', hkinds⟩ := hscans.relaid hblanks hgap hgap' hkeep htext
    ⟨_, htoken, by rw [hplace, Nat.zero_add]⟩
  refine ⟨tokens', ?_, hkinds⟩
  have := hscans'.scanFrom_eq_ok
  rwa [← htext'] at this

theorem parse_of_sameKinds {tokens' : List Token} {tree : Expr}
    (htokens : g.tokenize text = .ok tokens) (htokens' : g.tokenize text' = .ok tokens')
    (hkinds : Parser.SameKinds tokens tokens') (h : g.parse text = .ok tree) :
    g.parse text' = .ok tree := by
  rw [parse_of_ok htokens] at h
  rw [parse_of_ok htokens']
  exact Parser.parseWithin_of_sameKinds hkinds h

/-- The layout of a text is of no account: however the blanks between its tokens are replaced, time
and again, the tokens are of the same kinds. A tree stays the same and has the same outcomes. -/
theorem sameKinds_of_relaid (hsymbols : g.BlankFree)
    (hlayout : Relation.ReflTransGen g.Relaid text text') (h : g.tokenize text = .ok tokens) :
    (∃ tokens', g.tokenize text' = .ok tokens' ∧
      tokens.map (·.kind) = tokens'.map (·.kind)) ∧
    ∀ tree, g.parse text = .ok tree → g.parse text' = .ok tree ∧
      ∀ context, g.evaluate text context = g.evaluate text' context := by
  have htokens : ∃ tokens', g.tokenize text' = .ok tokens' ∧ Parser.SameKinds tokens tokens' := by
    induction hlayout with
    | refl => exact ⟨tokens, h, rfl⟩
    | tail _ hstep ih =>
      obtain ⟨middle, hmiddle, hkinds⟩ := ih
      obtain ⟨tokens', htokens', hkinds'⟩ := hstep.exists_tokenize_eq_ok hsymbols hmiddle
      exact ⟨tokens', htokens', hkinds.trans hkinds'⟩
  refine ⟨htokens, fun tree htree => ?_⟩
  obtain ⟨tokens', htokens', hkinds⟩ := htokens
  have htree' := parse_of_sameKinds h htokens' hkinds htree
  exact ⟨htree', fun context => by rw [evaluate, evaluate, htree, htree']⟩

theorem blankFree_standard : standard.BlankFree := by
  have hall : (standard.symbols.all fun symbol => symbol.toList.all (!isBlank ·)) = true := by
    decide +kernel
  intro symbol hsymbol c hc
  have hnone := List.all_eq_true.mp (List.all_eq_true.mp hall symbol (mem_symbols.mpr hsymbol)) c hc
  simpa using hnone

/-- A line end and a wide space take the place of a space. -/
theorem sameKinds_of_relaid_standard :
    let text := "x <= -1 "
    let text' := "x\n\u3000<= -1 "
    let tokens : List Token :=
      [⟨.identifier "x", 0⟩, ⟨.operator "<=", 2⟩, ⟨.int (-1), 5⟩, ⟨.eof, 8⟩]
    let tree : Expr := .binary "<=" (.identifier "x") (.literal (.int (-1)))
    (standard.BlankFree ∧ Relation.ReflTransGen standard.Relaid text text' ∧
      standard.tokenize text = .ok tokens ∧ standard.parse text = .ok tree) ∧
    (∃ tokens', standard.tokenize text' = .ok tokens' ∧
      tokens.map (·.kind) = tokens'.map (·.kind)) ∧
    standard.parse text' = .ok tree ∧
      ∀ context, standard.evaluate text context = standard.evaluate text' context := by
  intro text text' tokens tree
  have htree : standard.parse text = .ok tree := (parse_of_ok tokenize_comparison).trans rfl
  have hgap' : ∀ c ∈ ['\n', '\u3000'], isBlank c = true := by simp [isBlank]
  have hstep : standard.Relaid "x <= -1 " "x\n\u3000<= -1 " :=
    @Relaid.intro _ _ _ tokens _ ['x'] _ _ "<= -1 ".toList tokenize_comparison
      (List.mem_cons_of_mem _ List.mem_cons_self) rfl rfl
      Lexer.forall_isBlank_space hgap' (by simp) rfl
  have hlayout := Relation.ReflTransGen.single hstep
  obtain ⟨hkinds, hsame⟩ := sameKinds_of_relaid blankFree_standard hlayout tokenize_comparison
  exact ⟨⟨blankFree_standard, hlayout, tokenize_comparison, htree⟩, hkinds, hsame tree htree⟩

end Grammar

end Cohort
