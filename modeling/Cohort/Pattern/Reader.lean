import Cohort.Number.Narrow
import Cohort.Pattern.Meaning

/-! Patterns read from text. -/
namespace Cohort.Pattern
open Cohort.Text
open scoped Cohort.Number.Power

/-- What is carried along: whether blanks and comments mean nothing, the number of the next group,
the names of the groups so far, and the rest of the text. -/
structure Source where
  verbose : Bool
  nextGroup : Nat
  names : List (List Char)
  text : List Char

abbrev Read (α : Type) : Type := Source → Option (α × Source)

/-- The characters up to the first that is not to be kept, and the text from there on. With
`verbose`, blanks are passed over, and comments from `#` to the end of the line; `inComment` tells
whether one is open. -/
def gather (keep : Char → Bool) (verbose : Bool) : Bool → List Char → List Char × List Char
  | _, [] => ([], [])
  | true, c :: rest => gather keep verbose (c != '\n') rest
  | false, c :: rest =>
    if verbose && isBlank c then gather keep verbose false rest
    else if verbose && c == '#' then gather keep verbose true rest
    else if keep c then
      let (kept, rest) := gather keep verbose false rest
      (c :: kept, rest)
    else ([], c :: rest)

namespace Source

def withText (s : Source) (text : List Char) : Source := { s with text }

def gather (s : Source) (keep : Char → Bool) : List Char × Source :=
  let (kept, rest) := Pattern.gather keep s.verbose false s.text
  (kept, s.withText rest)

/-- Passes over blanks and comments where they mean nothing. -/
def skipSpace (s : Source) : Source := (s.gather fun _ => false).2

/-- Passes over one character and the blanks and comments after it. -/
def advance (s : Source) : Source := (s.withText (s.text.drop 1)).skipSpace

/-- The character after the next one. Where blanks and comments mean nothing, the sign that opens a
comment is passed over, but not the comment. -/
def second (s : Source) : Option Char :=
  let rest := s.text.drop 1
  if !s.verbose then rest.head?
  else match rest.dropWhile isBlank with
    | '#' :: rest => (rest.dropWhile isBlank).head?
    | rest => rest.head?

end Source

/-- Characters with a meaning of their own. -/
def isMeta (c : Char) : Bool := "\\.+*?()|[]\x7b\x7d^$#&-~".toList.contains c

/-- Characters that a backslash leaves as they are. -/
def isEscapable (c : Char) : Bool :=
  isMeta c || (c.toNat < 128 && !c.isAlphanum && c != '<' && c != '>')

/-- What a backslash and the characters after it stand for. -/
inductive Escape where
  | literal (l : Literal)
  | shorthand (kind : Shorthand) (negated : Bool)
  | property (p : PropertyClass)
  | anchor (a : Anchor)

/-- The character with this number, if there is one. -/
def charOf? (n : Nat) : Option Char :=
  if n < 0xD800 ∨ (0xDFFF < n ∧ n < 0x110000) then some (Char.ofNat n) else none

/-- A number of characters, one after another. -/
def readChars : Nat → Read (List Char)
  | 0, s => some ([], s)
  | count + 1, s =>
    match s.text with
    | [] => none
    | c :: _ => do
      let (rest, s) ← readChars count s.advance
      some (c :: rest, s)

/-- A character by its number in hexadecimal digits: as many as the letter asks for, or any number
in braces. -/
def readHex (width : Nat) : Read Literal := fun s =>
  let s := s.skipSpace
  match s.text with
  | '\x7b' :: rest => do
    let (digits, s) := (s.withText rest).gather (· != '\x7d')
    if digits.isEmpty ∨ s.text.isEmpty then none
    let c ← charOf? (← hexValue? digits)
    some (⟨c, false⟩, s.advance)
  | _ => do
    let (digits, s) ← readChars width s
    let c ← charOf? (← hexValue? digits)
    some (⟨c, width == 2⟩, s)

/-- Cuts a list at the first place where a sign stands. -/
def cutAt? (sign : List Char) : List Char → Option (List Char × List Char)
  | [] => none
  | c :: rest =>
    if sign.isPrefixOf (c :: rest) then some ([], (c :: rest).drop sign.length)
    else (cutAt? sign rest).map fun (front, back) => (c :: front, back)

/-- What stands in the braces of a property class: a name, or name and value that are to be equal or
to differ. -/
def PropertyClass.ofText (negated : Bool) (text : List Char) : PropertyClass :=
  match cutAt? ['!', '='] text with
  | some (name, value) => ⟨name, some value, !negated⟩
  | none =>
    match (cutAt? [':'] text).orElse fun _ => cutAt? ['='] text with
    | some (name, value) => ⟨name, some value, negated⟩
    | none => ⟨text, none, negated⟩

/-- A property class after `\p` or `\P`. -/
def readProperty (negated : Bool) : Read PropertyClass := fun s =>
  let s := s.skipSpace
  match s.text with
  | [] => none
  | '\x7b' :: rest =>
    let (text, s) := (s.withText rest).gather (· != '\x7d')
    if s.text.isEmpty then none
    else some (.ofText negated text, s.withText (s.text.drop 1))
  | c :: _ => if c = '\\' then none else some (⟨[c], none, negated⟩, s.advance)

/-- The kinds of word boundary that are named in braces. -/
def namedBoundary? : String → Option Anchor
  | "start" => some .wordStart
  | "end" => some .wordEnd
  | "start-half" => some .wordStartHalf
  | "end-half" => some .wordEndHalf
  | _ => none

/-- What follows `\b`: a kind of boundary in braces, or nothing that belongs to it. -/
def readBoundary : Read Anchor := fun s =>
  match s.text with
  | '\x7b' :: rest =>
    let (name, inner) := (s.withText rest).gather fun c => c.isAlpha || c == '-'
    if inner.text.isEmpty then none
    else if name.isEmpty then some (.wordBoundary, s)
    else match inner.text with
      | '\x7d' :: rest => (namedBoundary? (String.ofList name)).map (·, s.withText rest)
      | _ => none
  | _ => some (.wordBoundary, s)

/-- What stands after a backslash. -/
def readEscape : Read Escape := fun s =>
  match s.text with
  | [] => none
  | c :: rest =>
    let s := s.withText rest
    let char (d : Char) : Option (Escape × Source) := some (.literal ⟨d, false⟩, s)
    let anchor (a : Anchor) : Option (Escape × Source) := some (.anchor a, s)
    let shorthand (kind : Shorthand) : Option (Escape × Source) :=
      some (.shorthand kind c.isUpper, s)
    match c with
    | 'x' => (readHex 2 s).map fun (l, s) => (.literal l, s)
    | 'u' => (readHex 4 s).map fun (l, s) => (.literal l, s)
    | 'U' => (readHex 8 s).map fun (l, s) => (.literal l, s)
    | 'p' | 'P' => (readProperty (c == 'P') s).map fun (p, s) => (.property p, s)
    | 'd' | 'D' => shorthand .digit
    | 's' | 'S' => shorthand .space
    | 'w' | 'W' => shorthand .word
    | 'a' => char '\x07'
    | 'f' => char '\x0c'
    | 't' => char '\t'
    | 'n' => char '\n'
    | 'r' => char '\r'
    | 'v' => char '\x0b'
    | 'A' => anchor .textStart
    | 'z' => anchor .textEnd
    | 'B' => anchor .notWordBoundary
    | 'b' => (readBoundary s).map fun (a, s) => (.anchor a, s)
    | '<' => anchor .wordStart
    | '>' => anchor .wordEnd
    | c => if isEscapable c then char c else none

/-- A member of a bracketed class: a character, or what a backslash introduces. -/
def readMember : Read Escape := fun s =>
  match s.text with
  | [] => none
  | '\\' :: rest => readEscape (s.withText rest)
  | c :: rest => some (.literal ⟨c, false⟩, s.withText rest)

/-- What an escape adds to a class; places between characters are nothing to add. -/
def Escape.toSet? : Escape → Option SetTree
  | .literal l => some (.literal l)
  | .shorthand kind negated => some (.shorthand kind negated)
  | .property p => some (.property p)
  | .anchor _ => none

/-- A member, or a range of characters. -/
def readRange : Read SetTree := fun s => do
  let (first, s) ← readMember s
  let s := s.skipSpace
  if s.text.isEmpty then none
  if s.text.head? ≠ some '-' ∨ s.second = some ']' ∨ s.second = some '-' then
    some (← first.toSet?, s)
  else
    let (last, s) ← readMember s.advance
    match first, last with
    | .literal low, .literal high =>
      if low.char ≤ high.char then some (.range low high, s) else none
    | _, _ => none

/-- A class called by name after its opening bracket, if what stands there is one. -/
def readNamed? (s : Source) : Option (SetTree × Source) :=
  match s.text with
  | ':' :: rest =>
    let (negated, rest) := match rest with
      | '^' :: rest => (true, rest)
      | rest => (false, rest)
    let name := rest.takeWhile (· ≠ ':')
    match rest.drop name.length with
    | ':' :: ']' :: rest =>
      (CharSet.ofAsciiName? (String.ofList name)).map fun members =>
        (.named members negated, s.withText rest)
    | _ => none
  | _ => none

def readOperation? : List Char → Option (SetOperation × List Char)
  | '&' :: '&' :: rest => some (.inter, rest)
  | '-' :: '-' :: rest => some (.diff, rest)
  | '~' :: '~' :: rest => some (.symmDiff, rest)
  | _ => none

def isHyphen (c : Char) : Bool := c == '-'

/-- Takes the hyphens, or the closing bracket, that stand for themselves at the front of a class. -/
def readLeading : Read (List SetTree) := fun s =>
  let (hyphens, s) := s.gather isHyphen
  match hyphens, s.text with
  | _, [] => none
  | [], ']' :: _ =>
    let s := s.advance
    if s.text.isEmpty then none else some ([.literal ⟨']', false⟩], s)
  | hyphens, _ => some (hyphens.map fun c => .literal ⟨c, false⟩, s)

/-- What has been read of a class: what stands before the last operation, if there was one, and the
parts after it, the last one first. -/
structure ClassParts where
  before : Option (SetTree × SetOperation)
  parts : List SetTree

namespace ClassParts

def add (c : ClassParts) (part : SetTree) : ClassParts := { c with parts := part :: c.parts }

/-- All parts together; operations are applied from left to right. -/
def toTree (c : ClassParts) : SetTree :=
  let last := SetTree.unionOf c.parts.reverse
  match c.before with
  | none => last
  | some (first, op) => .operation op first last

def addOperation (c : ClassParts) (op : SetOperation) : ClassParts := ⟨some (c.toTree, op), []⟩

end ClassParts

mutual

/-- A bracketed class after its opening bracket: whether it is negated, and its body. -/
def readClass : Nat → Read (Bool × SetTree)
  | 0, _ => none
  | fuel + 1, s => do
    let s := s.skipSpace
    let (negated, s) := match s.text with
      | '^' :: _ => (true, s.advance)
      | _ => (false, s)
    let (leading, s) ← readLeading s
    let (body, s) ← readClassParts ⟨none, leading.reverse⟩ fuel s
    some ((negated, body), s)

/-- The parts of a class up to its closing bracket. -/
def readClassParts (found : ClassParts) : Nat → Read SetTree
  | 0, _ => none
  | fuel + 1, s =>
    let s := s.skipSpace
    match s.text with
    | [] => none
    | ']' :: rest => some (found.toTree, s.withText rest)
    | '[' :: rest =>
      match readNamed? (s.withText rest) with
      | some (part, s) => readClassParts (found.add part) fuel s
      | none => do
        let ((negated, body), s) ← readClass fuel (s.withText rest)
        readClassParts (found.add (.bracketed negated body)) fuel s
    | text =>
      match readOperation? text with
      | some (op, rest) => readClassParts (found.addOperation op) fuel (s.withText rest)
      | none => do
        let (part, s) ← readRange s
        readClassParts (found.add part) fuel s

end

/-- A number in a repetition, with blanks around it. -/
def readCount : Read Nat := fun s =>
  let (digits, s) := (s.withText (s.text.dropWhile isBlank)).gather isDigit
  let s := s.withText (s.text.dropWhile isBlank)
  if digits.isEmpty ∨ 2 ^ (32 : Nat) ≤ digitsValue digits then none else some (digitsValue digits, s)

/-- The bounds of a repetition after its opening brace. -/
def readBounds : Read (Nat × Option Nat) := fun s => do
  let (least, s) ← readCount s.skipSpace
  match s.text with
  | '\x7d' :: rest => some ((least, some least), s.withText rest)
  | ',' :: _ =>
    let s := s.advance
    match s.text with
    | '\x7d' :: rest => some ((least, none), s.withText rest)
    | _ =>
      let (most, s) ← readCount s
      match s.text with
      | '\x7d' :: rest => if least ≤ most then some ((least, some most), s.withText rest) else none
      | _ => none
  | _ => none

/-- Whether a repetition is greedy: a question mark after it says that it is not. -/
def readGreed (s : Source) : Bool × Source :=
  match s.text with
  | '?' :: rest => (false, s.withText rest)
  | _ => (true, s)

/-- The options after `(?`, up to a colon or a closing parenthesis, and whether a group follows.
Letters after a hyphen are switched off; neither they nor the hyphen may come twice. -/
def readFlags (value : Bool) (found : FlagChange) :
    List Char → Option (FlagChange × Bool × List Char)
  | [] => none
  | c :: rest =>
    if c = ':' ∨ c = ')' then
      if value = found.all (·.2) ∧ (c = ':' ∨ !found.isEmpty) then
        some (found.reverse, c = ':', rest)
      else none
    else if c = '-' then
      if value then readFlags false found rest else none
    else do
      let flag ← Flag.ofLetter? c
      if found.any (·.1 == flag) then none
      readFlags value ((flag, value) :: found) rest

/-- The name of a group, up to `>`. -/
def readName : Read (List Char) := fun s => do
  let name := s.text.takeWhile (· ≠ '>')
  let rest := s.text.drop name.length
  if rest.isEmpty then none
  match name with
  | [] => none
  | c :: more =>
    let starts := c = '_' || isAlphabetic c
    let goesOn := more.all fun c => c = '_' || c = '.' || c = '[' || c = ']' || isAlphanumeric c
    if starts && goesOn && !s.names.contains name then
      some (name, { s with text := rest.drop 1, names := name :: s.names })
    else none

/-- What has been read of a group: the alternatives before, and the parts of the present one, both
with the last one first. -/
structure GroupParts where
  alternatives : List Tree
  parts : List Tree

namespace GroupParts

def add (g : GroupParts) (part : Tree) : GroupParts := { g with parts := part :: g.parts }

/-- Ends the present alternative. -/
def split (g : GroupParts) : GroupParts :=
  ⟨Tree.sequenceOf g.parts.reverse :: g.alternatives, []⟩

def toTree (g : GroupParts) : Tree := .alternativesOf g.split.alternatives.reverse

/-- Repeats the last part. -/
def repeatLast? (g : GroupParts) (least : Nat) (most : Option Nat) (greedy : Bool) :
    Option GroupParts :=
  match g.parts with
  | last :: parts =>
    if last.repeatable then some { g with parts := .repetition last least most greedy :: parts }
    else none
  | [] => none

end GroupParts

def Escape.toTree : Escape → Tree
  | .literal l => .literal l
  | .shorthand kind negated => .shorthand kind negated
  | .property p => .property p
  | .anchor a => .anchor a

mutual

/-- The parts of a group up to its closing parenthesis or the end of the text. -/
def readParts (found : GroupParts) : Nat → Read Tree
  | 0, _ => none
  | fuel + 1, s =>
    let s := s.skipSpace
    match s.text with
    | [] | ')' :: _ => some (found.toTree, s)
    | '|' :: rest => readParts found.split fuel (s.withText rest)
    | '(' :: rest => do
      let (part, s) ← readGroup fuel (s.withText rest)
      readParts (found.add part) fuel s
    | '[' :: rest => do
      let ((negated, body), s) ← readClass (2 * rest.length + 2) (s.withText rest)
      readParts (found.add (.bracketed negated body)) fuel s
    | '*' :: rest => do
      let (greedy, s) := readGreed (s.withText rest)
      readParts (← found.repeatLast? 0 none greedy) fuel s
    | '+' :: rest => do
      let (greedy, s) := readGreed (s.withText rest)
      readParts (← found.repeatLast? 1 none greedy) fuel s
    | '?' :: rest => do
      let (greedy, s) := readGreed (s.withText rest)
      readParts (← found.repeatLast? 0 (some 1) greedy) fuel s
    | '\x7b' :: rest => do
      let ((least, most), s) ← readBounds (s.withText rest)
      let (greedy, s) := readGreed s.skipSpace
      readParts (← found.repeatLast? least most greedy) fuel s
    | '\\' :: rest => do
      let (escape, s) ← readEscape (s.withText rest)
      readParts (found.add escape.toTree) fuel s
    | '.' :: rest => readParts (found.add .dot) fuel (s.withText rest)
    | '^' :: rest => readParts (found.add .lineStart) fuel (s.withText rest)
    | '$' :: rest => readParts (found.add .lineEnd) fuel (s.withText rest)
    | c :: rest => readParts (found.add (.literal ⟨c, false⟩)) fuel (s.withText rest)

/-- A group after its opening parenthesis: one that is numbered, one that is not, or options for
what follows. -/
def readGroup : Nat → Read Tree
  | 0, _ => none
  | fuel + 1, s => do
    let s := s.skipSpace
    let outer := s.verbose
    let body (index : Option Nat) (change : FlagChange) (s : Source) : Option (Tree × Source) := do
      let (body, s) ← readParts ⟨[], []⟩ fuel s
      match s.text with
      | ')' :: rest => some (.group index change body, { s with text := rest, verbose := outer })
      | _ => none
    let numbered (s : Source) := body (some s.nextGroup) [] { s with nextGroup := s.nextGroup + 1 }
    match s.text with
    | '?' :: '=' :: _ | '?' :: '!' :: _ | '?' :: '<' :: '=' :: _ | '?' :: '<' :: '!' :: _ => none
    | '?' :: 'P' :: '<' :: rest | '?' :: '<' :: rest => do
      let (_, s) ← readName (s.withText rest)
      numbered s
    | '?' :: rest => do
      let (change, isGroup, rest) ← readFlags true [] rest
      let verbose := (change.lookup .verbose).getD outer
      let s := { s with text := rest, verbose }
      if isGroup then body none change s else some (.setFlags change, s)
    | _ => numbered s

end

/-- The pattern that a text stands for. -/
def ofText? (flags : Flags) (source : String) : Option Node := do
  let text := source.toList
  let (tree, s) ← readParts ⟨[], []⟩ (2 * text.length + 2) ⟨flags.verbose, 1, [], text⟩
  if s.text.isEmpty then tree.toNode? flags else none

end Cohort.Pattern
