import Cohort.Expr.Basic
import Cohort.Token.Lexer

/-!
Expressions from tokens, by precedence climbing. The parser goes through the tokens from front to
back and keeps book of the levels that are open and of the height of the tree built last. How many
levels may be open and how tall a tree may grow is a parameter, so that the parser with limits can
be compared with the one without.
-/
namespace Cohort

/-- The greatest nesting and the greatest height allowed, `none` when there is no bound. Every
expression within brackets or a branch of a conditional, and every unary operator, opens a level
of nesting, as does the whole expression. -/
structure Limits where
  nesting : Option Nat
  height : Option Nat
  deriving DecidableEq, Repr

namespace Limits

def standard : Limits := ⟨some 64, some 256⟩

def unbounded : Limits := ⟨none, none⟩

def allowsNesting (limits : Limits) (levels : Nat) : Bool := limits.nesting.all (levels ≤ ·)

def allowsHeight (limits : Limits) (height : Nat) : Bool := limits.height.all (height ≤ ·)

end Limits

namespace Parser

/-- What the parser reads from and keeps book of: the tokens from the current one on, how many
levels are open, how many were open at once so far, and the height of the tree built last. -/
structure State where
  tokens : List Token
  depth : Nat
  deepest : Nat
  height : Nat

/-- What stopped the parser. It runs out of fuel only if it gets too little of it. -/
inductive Cause where
  | expected (expected : Expected)
  | tooDeep
  | outOfFuel

/-- A failure, with the tokens from the current one on. -/
structure Fault where
  cause : Cause
  tokens : List Token

/-- The first of some tokens; an end marker when there is none. -/
def current (tokens : List Token) : Token := tokens.headD ⟨.eof, 0⟩

/-- The failure as it is reported. -/
def Fault.toSyntaxError (fault : Fault) : SyntaxError :=
  let token := current fault.tokens
  match fault.cause with
  | .expected expected =>
    if token.kind.isEof then .unexpectedEof expected
    else .unexpectedToken token.kind expected token.offset
  | .tooDeep | .outOfFuel => .nestingTooDeep token.offset

/-- A step of the parser. -/
abbrev Reader (α : Type) : Type := StateT State (Except Fault) α

def fail {α : Type} (cause : Cause) : Reader α := fun s => .error ⟨cause, s.tokens⟩

def startsWith (m : Mark) : List Token → Bool
  | ⟨.mark m', _⟩ :: _ => m' = m
  | _ => false

/-- Whether the current token is a mark. -/
def check (m : Mark) : Reader Bool := do return startsWith m (← get).tokens

def advance : Reader Unit := modify fun s => { s with tokens := s.tokens.tail }

def expectMark (m : Mark) : Reader Unit := do
  if ← check m then advance else fail (.expected (.mark m))

/-- The name that the current token gives, when it gives one. -/
def expectName (name? : TokenKind → Option String) (expected : Expected) : Reader String := do
  match name? (current (← get).tokens).kind with
  | some name =>
    advance
    pure name
  | none => fail (.expected expected)

def identifier? : TokenKind → Option String
  | .identifier name => some name
  | _ => none

/-- A string or an identifier names the entry of an object. -/
def key? : TokenKind → Option String
  | .identifier name | .string name => some name
  | _ => none

/-- Goes over the comma after an item, which may be missing before the closing mark. -/
def separate (close : Mark) : Reader Unit := do
  if ← check close then pure () else expectMark .comma

/-- Opens a level, unless there are too many. -/
def enter (limits : Limits) : Reader Unit := do
  modify fun s => { s with depth := s.depth + 1, deepest := max s.deepest (s.depth + 1) }
  if limits.allowsNesting (← get).depth then pure () else fail .tooDeep

def leave : Reader Unit := modify fun s => { s with depth := s.depth - 1 }

def putHeight (height : Nat) : Reader Unit := modify fun s => { s with height }

/-- Records the height of the tree just built, unless it has grown too tall. -/
def setHeight (limits : Limits) (height : Nat) : Reader Unit :=
  if limits.allowsHeight height then putHeight height else fail .tooDeep

/-- The binary operator at the front of some tokens, with its precedence. -/
def binaryAt (g : Grammar) : List Token → Option (String × Int32)
  | ⟨.operator symbol, _⟩ :: _ => (g.precedence? symbol).map (symbol, ·)
  | _ => none

/-- The unary operator at the front of some tokens. -/
def unaryAt (g : Grammar) : List Token → Option String
  | ⟨.operator symbol, _⟩ :: _ => if g.isUnary symbol then some symbol else none
  | _ => none

/-- The operand that is a single token. -/
def atom? : TokenKind → Option Expr
  | .float x => some (.literal (.float x))
  | .int n => some (.literal (.int n))
  | .string s => some (.literal (.string s))
  | .bool b => some (.literal (.bool b))
  | .null => some (.literal Value.null)
  | .identifier name => some (.identifier name)
  | _ => none

/-- The least precedence that binds tighter than `p`, or `p` itself when there is none. -/
def tighter (p : Int32) : Int32 := if p = Int32.maxValue then p else p + 1

/-- What a bracket after a subject means: a filter when the expression in it depends on an element,
and otherwise access to a part. -/
def bracket (subject inner : Expr) : Expr :=
  if inner.hasRelative then .filter subject inner else .member subject inner true

variable (g : Grammar) (limits : Limits)

mutual

/-- A whole expression, one level deeper than what is around it. -/
def expression : Nat → Reader Expr
  | 0 => fail .outOfFuel
  | fuel + 1 => do
    enter limits
    let tree ← conditional fuel
    leave
    pure tree
termination_by structural fuel => fuel

/-- A test, and two branches when a question mark follows it. -/
def conditional : Nat → Reader Expr
  | 0 => fail .outOfFuel
  | fuel + 1 => do
    let test ← binary Int32.minValue fuel
    if ← check .question then
      let height := (← get).height
      advance
      let consequent ← expression fuel
      let height := max height (← get).height
      expectMark .colon
      let alternate ← expression fuel
      setHeight limits (max height (← get).height + 1)
      pure (.conditional test consequent alternate)
    else pure test
termination_by structural fuel => fuel

/-- Operands joined by binary operators whose precedence is at least `least`. -/
def binary (least : Int32) : Nat → Reader Expr
  | 0 => fail .outOfFuel
  | fuel + 1 => do
    let left ← unary fuel
    binaryTail least fuel left (← get).height
termination_by structural fuel => fuel

/-- Goes on after a left operand of the given height, for as long as an operator of at least the
given precedence follows. Its right operand takes in only operators that bind tighter. -/
def binaryTail (least : Int32) : Nat → Expr → Nat → Reader Expr
  | 0, _, _ => fail .outOfFuel
  | fuel + 1, left, height => do
    match binaryAt g (← get).tokens with
    | some (symbol, precedence) =>
      if precedence < least then pure left
      else
        advance
        let right ← binary (tighter precedence) fuel
        let height := max height (← get).height + 1
        setHeight limits height
        binaryTail least fuel (.binary symbol left right) height
    | none => pure left
termination_by structural fuel => fuel

/-- An operand with the unary operators before it. -/
def unary : Nat → Reader Expr
  | 0 => fail .outOfFuel
  | fuel + 1 => do
    match unaryAt g (← get).tokens with
    | some symbol =>
      advance
      enter limits
      let operand ← unary fuel
      leave
      setHeight limits ((← get).height + 1)
      pure (.unary symbol operand)
    | none => suffixed fuel
termination_by structural fuel => fuel

/-- An operand with the members, brackets and transforms after it. -/
def suffixed : Nat → Reader Expr
  | 0 => fail .outOfFuel
  | fuel + 1 => do
    let subject ← primary fuel
    suffixes fuel subject (← get).height
termination_by structural fuel => fuel

/-- Goes on after a subject of the given height, for as long as a dot, a bracket or a pipe
follows. -/
def suffixes : Nat → Expr → Nat → Reader Expr
  | 0, _, _ => fail .outOfFuel
  | fuel + 1, subject, height => do
    if ← check .dot then
      advance
      let name ← expectName identifier? .identifier
      setHeight limits (height + 1)
      suffixes fuel (.member subject (.literal (.string name)) false) (height + 1)
    else if ← check .leftBracket then
      advance
      let inner ← expression fuel
      let height := max height (← get).height + 1
      expectMark .rightBracket
      setHeight limits height
      suffixes fuel (bracket subject inner) height
    else if ← check .pipe then
      advance
      let name ← expectName identifier? .identifier
      if ← check .leftParen then
        advance
        let arguments ← list .rightParen fuel 0
        let height := max height (← get).height + 1
        setHeight limits height
        suffixes fuel (.transform subject name arguments) height
      else
        setHeight limits (height + 1)
        suffixes fuel (.transform subject name []) (height + 1)
    else
      putHeight height
      pure subject
termination_by structural fuel => fuel

/-- A literal, a name, a group or a collection. -/
def primary : Nat → Reader Expr
  | 0 => fail .outOfFuel
  | fuel + 1 => do
    putHeight 1
    if ← check .dot then
      advance
      return .relative (← expectName identifier? .identifier)
    else if ← check .leftParen then
      advance
      let tree ← expression fuel
      expectMark .rightParen
      pure tree
    else if ← check .leftBracket then
      advance
      let items ← list .rightBracket fuel 0
      setHeight limits ((← get).height + 1)
      pure (.array items)
    else if ← check .leftBrace then
      advance
      return .object (← fields fuel 0)
    else
      match atom? (current (← get).tokens).kind with
      | some tree =>
        advance
        pure tree
      | none => fail (.expected .operand)
termination_by structural fuel => fuel

/-- Expressions with commas between them, up to and including the closing mark, after others of at
most the given height. A comma may stand before the mark. -/
def list (close : Mark) : Nat → Nat → Reader (List Expr)
  | 0, _ => fail .outOfFuel
  | fuel + 1, height => do
    if ← check close then
      advance
      putHeight height
      pure []
    else
      let item ← expression fuel
      let height := max height (← get).height
      separate close
      return item :: (← list close fuel height)
termination_by structural fuel => fuel

/-- The entries of an object up to and including its closing brace, after others of at most the
given height. -/
def fields : Nat → Nat → Reader (List (String × Expr))
  | 0, _ => fail .outOfFuel
  | fuel + 1, height => do
    if ← check .rightBrace then
      advance
      setHeight limits (height + 1)
      pure []
    else
      let key ← expectName key? .objectKey
      expectMark .colon
      let value ← expression fuel
      let height := max height (← get).height
      separate .rightBrace
      return (key, value) :: (← fields fuel height)
termination_by structural fuel => fuel

end

/-- An expression that takes up all the tokens before an end marker. -/
def whole (fuel : Nat) : Reader Expr := do
  let tree ← expression g limits fuel
  if (current (← get).tokens).kind.isEof then
    advance
    pure tree
  else fail (.expected .eof)

/-- A token list with an end marker behind it, where its last token stands. -/
def closed (tokens : List Token) : List Token :=
  tokens ++ [⟨.eof, (tokens.getLast?.map (·.offset)).getD 0⟩]

/-- Where the parser begins. -/
def start (tokens : List Token) : State := ⟨closed tokens, 0, 0, 0⟩

/-- Enough fuel for a token list: a token takes at most eight calls. -/
def fuelFor (tokens : List Token) : Nat := 8 * (closed tokens).length + 8

/-- The tree that a token list spells, with the state the parser ends in. -/
def run (tokens : List Token) : Except Fault (Expr × State) :=
  whole g limits (fuelFor tokens) (start tokens)

/-- The expression that a token list spells, within the given limits. -/
def parseWithin (tokens : List Token) : Except SyntaxError Expr :=
  match run g limits tokens with
  | .ok (tree, _) => .ok tree
  | .error fault => .error fault.toSyntaxError

end Parser

namespace Grammar

/-- The expression that a token list spells. -/
def parseTokens (g : Grammar) (tokens : List Token) : Except SyntaxError Expr :=
  Parser.parseWithin g .standard tokens

/-- The expression that a text spells. -/
def parse (g : Grammar) (text : String) : Except SyntaxError Expr := do
  g.parseTokens (← g.tokenize text)

end Grammar

end Cohort
