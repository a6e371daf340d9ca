import Cohort.Proofs.Document.Mapped
import Cohort.Proofs.Json.Quoted
import Cohort.Proofs.Number.Decimal
import Cohort.Proofs.Value.Plain
import Cohort.Sampling.Canonical
import Mathlib

/-!
The canonical text of values without doubles and dates is unambiguous. The first character tells the
kind of a value, and the text shows where the value ends, so that items and entries that stand one
after another are told apart whatever their strings contain.
-/
namespace Cohort
open Cohort.Json (quoteChars quoteChars_append_inj)
open Cohort.Number (EndsNumber)
open Cohort.Text (isDigit)

section Separated
variable {γ : Type} {p : γ → Prop} {f : γ → List Char} {xs ys : List γ} {close : Char}
  {rest rest' : List Char}

/-- Among the members of `p`, the text of `x` determines `x`, and it shows where it ends, whatever
follows but a digit. -/
def Determined (p : γ → Prop) (f : γ → List Char) (x : γ) : Prop :=
  ∀ y, p y → ∀ rest rest', EndsNumber rest → EndsNumber rest' → f x ++ rest = f y ++ rest' →
    x = y ∧ rest = rest'

theorem endsNumber_cons {c : Char} (h : isDigit c = false) : EndsNumber (c :: rest) := by
  intro c' hc'
  cases hc'
  exact h

theorem endsNumber_flatMap_comma (hclose : isDigit close = false) :
    EndsNumber (xs.flatMap (fun x => ',' :: f x) ++ close :: rest) := by
  cases xs with
  | nil => exact endsNumber_cons hclose
  | cons x xs => exact endsNumber_cons rfl

theorem intercalate_comma_cons (x : γ) (xs : List γ) :
    [','].intercalate ((x :: xs).map f) = f x ++ xs.flatMap fun x => ',' :: f x := by
  induction xs generalizing x with
  | nil => simp
  | cons y xs ih =>
    rw [List.map_cons, List.intercalate_cons_of_ne_nil (by simp), ih y]
    simp

theorem flatMap_comma_inj (hclose : isDigit close = false) (hcomma : close ≠ ',')
    (hxs : ∀ x ∈ xs, Determined p f x) (hys : ∀ y ∈ ys, p y)
    (h : xs.flatMap (fun x => ',' :: f x) ++ close :: rest =
      ys.flatMap (fun y => ',' :: f y) ++ close :: rest') : xs = ys ∧ rest = rest' := by
  induction xs generalizing ys with
  | nil =>
    cases ys with
    | nil => exact ⟨rfl, (List.cons.inj h).2⟩
    | cons y ys => exact absurd (List.cons.inj h).1 hcomma
  | cons x xs ih =>
    rw [List.forall_mem_cons] at hxs
    cases ys with
    | nil => exact absurd (List.cons.inj h).1.symm hcomma
    | cons y ys =>
      rw [List.forall_mem_cons] at hys
      simp only [List.flatMap_cons, List.cons_append, List.append_assoc, List.cons.injEq,
        true_and] at h
      obtain ⟨rfl, htail⟩ := hxs.1 y hys.1 _ _ (endsNumber_flatMap_comma hclose)
        (endsNumber_flatMap_comma hclose) h
      obtain ⟨rfl, hrest⟩ := ih hxs.2 hys.2 htail
      exact ⟨rfl, hrest⟩

/-- A list whose members have texts that are determined is determined itself, up to a closing mark
that begins none of them. -/
theorem intercalate_comma_inj (hclose : isDigit close = false) (hcomma : close ≠ ',')
    (hopen : ∀ x, p x → ∀ text text', f x ++ text ≠ close :: text')
    (hxs : ∀ x ∈ xs, p x ∧ Determined p f x) (hys : ∀ y ∈ ys, p y)
    (h : [','].intercalate (xs.map f) ++ close :: rest =
      [','].intercalate (ys.map f) ++ close :: rest') : xs = ys ∧ rest = rest' := by
  cases xs with
  | nil =>
    cases ys with
    | nil => exact ⟨rfl, (List.cons.inj h).2⟩
    | cons y ys =>
      rw [intercalate_comma_cons, List.append_assoc] at h
      exact absurd h.symm (hopen y (hys y List.mem_cons_self) _ _)
  | cons x xs =>
    rw [List.forall_mem_cons] at hxs
    rw [intercalate_comma_cons, List.append_assoc] at h
    cases ys with
    | nil => exact absurd h (hopen x hxs.1.1 _ _)
    | cons y ys =>
      rw [List.forall_mem_cons] at hys
      rw [intercalate_comma_cons, List.append_assoc] at h
      obtain ⟨rfl, htail⟩ := hxs.1.2 y hys.1 _ _ (endsNumber_flatMap_comma hclose)
        (endsNumber_flatMap_comma hclose) h
      obtain ⟨rfl, hrest⟩ :=
        flatMap_comma_inj hclose hcomma (fun x hx => (hxs.2 x hx).2) hys.2 htail
      exact ⟨rfl, hrest⟩

end Separated

namespace Value

def canonicalChars (value : Value) : List Char := value.canonical.toList

def entryChars (entry : String × Value) : List Char :=
  quoteChars entry.1.toList ++ ':' :: entry.2.canonicalChars

theorem canonicalChars_array (items : List Value) :
    (array items).canonicalChars = '[' :: ([','].intercalate (items.map canonicalChars) ++ [']']) := by
  simp only [canonicalChars, canonical, Document.compact, compactItems_eq_map, String.toList_append,
    String.toList_intercalate, List.map_map]
  rfl

theorem canonicalChars_object (fields : Entries) :
    (object fields).canonicalChars =
      '\x7b' :: ([','].intercalate (fields.toList.map entryChars) ++ ['\x7d']) := by
  have hentry : (String.toList ∘ fun entry : String × Value =>
      Json.quote entry.1 ++ ":" ++ entry.2.compact Scalar.canonical) = entryChars := by
    funext entry
    simp [entryChars, canonicalChars, canonical, Json.quote]
  simp only [canonicalChars, canonical, Document.compact, compactEntries_eq_map,
    String.toList_append, String.toList_intercalate, List.map_map, hentry]
  rfl

theorem canonicalChars_string (s : String) : (string s).canonicalChars = quoteChars s.toList :=
  String.toList_ofList

def kindOf? (c : Char) : Option Kind :=
  if c = '-' ∨ isDigit c = true then some .integer
  else if c = '"' then some .string
  else if c = '[' then some .array
  else if c = '\x7b' then some .object
  else if c = 'n' then some .null
  else if c = 't' ∨ c = 'f' then some .boolean
  else none

namespace Plain
variable {a b value : Value} {rest rest' : List Char}

/-- The first character of the text tells the kind of a value. -/
theorem exists_canonicalChars_eq_cons (h : value.Plain) :
    ∃ c text, value.canonicalChars = c :: text ∧ kindOf? c = some value.kind := by
  cases h with
  | array => exact ⟨_, _, canonicalChars_array _, rfl⟩
  | object => exact ⟨_, _, canonicalChars_object _, rfl⟩
  | @scalar s hs =>
    cases s with
    | null => exact ⟨'n', _, rfl, rfl⟩
    | bool b => cases b <;> exact ⟨_, _, rfl, rfl⟩
    | string s => exact ⟨_, _, canonicalChars_string s, rfl⟩
    | int n =>
      obtain ⟨c, text, htext, hc⟩ := Number.exists_toList_toString_eq_cons n.toInt
      exact ⟨c, text, htext, if_pos hc⟩
    | float | date => exact hs.elim

theorem kind_eq (ha : a.Plain) (hb : b.Plain)
    (h : a.canonicalChars ++ rest = b.canonicalChars ++ rest') : a.kind = b.kind := by
  obtain ⟨c, text, htext, hc⟩ := ha.exists_canonicalChars_eq_cons
  obtain ⟨c', text', htext', hc'⟩ := hb.exists_canonicalChars_eq_cons
  rw [htext, htext'] at h
  rw [(List.cons.inj h).1] at hc
  exact Option.some.inj (hc.symm.trans hc')

theorem canonicalChars_append_ne {close : Char} (hclose : kindOf? close = none) (h : value.Plain)
    (text text' : List Char) : value.canonicalChars ++ text ≠ close :: text' := by
  obtain ⟨c, rest, hrest, hc⟩ := h.exists_canonicalChars_eq_cons
  rw [hrest]
  intro heq
  rw [(List.cons.inj heq).1, hclose] at hc
  cases hc

theorem scalar_determined {s : Scalar} (hs : s.Plain) :
    Determined Plain canonicalChars (.scalar s) := by
  intro other hother rest rest' hrest hrest' h
  have hkind : s.kind = other.kind := kind_eq (.scalar hs) hother h
  cases hother with
  | array | object => cases s <;> cases hkind
  | @scalar s' hs' =>
    cases s with
    | null =>
      cases s' <;> cases hkind
      exact ⟨rfl, List.append_cancel_left h⟩
    | bool b =>
      cases s' <;> cases hkind
      next b' =>
      cases b <;> cases b'
      · exact ⟨rfl, List.append_cancel_left h⟩
      · cases (List.cons.inj h).1
      · cases (List.cons.inj h).1
      · exact ⟨rfl, List.append_cancel_left h⟩
    | int n =>
      cases s' <;> cases hkind
      next m =>
      obtain ⟨heq, hafter⟩ := Number.toString_append_inj hrest hrest' h
      exact ⟨by rw [Int64.toInt_inj.mp heq], hafter⟩
    | string text =>
      cases s' <;> cases hkind
      next text' =>
      rw [canonicalChars_string, canonicalChars_string] at h
      obtain ⟨heq, hafter⟩ := quoteChars_append_inj h
      exact ⟨by rw [String.toList_inj.mp heq], hafter⟩
    | float | date => exact hs.elim

theorem entry_determined {entry : String × Value}
    (h : Determined Plain canonicalChars entry.2) :
    Determined (fun entry : String × Value => entry.2.Plain) entryChars entry := by
  intro entry' hentry' rest rest' hrest hrest' heq
  simp only [entryChars, List.append_assoc, List.cons_append] at heq
  obtain ⟨hkey, heq⟩ := quoteChars_append_inj heq
  obtain ⟨hvalue, hafter⟩ := h entry'.2 hentry' rest rest' hrest hrest' (List.cons.inj heq).2
  exact ⟨Prod.ext (String.toList_inj.mp hkey) hvalue, hafter⟩

/-- A value without doubles and dates is told from its text, and so is what follows it. -/
theorem determined (h : value.Plain) : Determined Plain canonicalChars value := by
  induction h with
  | scalar hs => exact scalar_determined hs
  | @array items hitems ih =>
    intro other hother rest rest' _ _ h
    have hkind : Kind.array = other.kind := kind_eq (.array hitems) hother h
    cases hother with
    | @scalar s => cases s <;> cases hkind
    | object => cases hkind
    | @array items' hitems' =>
      rw [canonicalChars_array, canonicalChars_array] at h
      simp only [List.cons_append, List.append_assoc, List.nil_append, List.cons.injEq,
        true_and] at h
      obtain ⟨rfl, hafter⟩ := intercalate_comma_inj rfl (by decide)
        (fun _ hitem => canonicalChars_append_ne rfl hitem)
        (fun item hmem => ⟨hitems item hmem, ih item hmem⟩) hitems' h
      exact ⟨rfl, hafter⟩
  | @object fields hfields ih =>
    intro other hother rest rest' _ _ h
    have hkind : Kind.object = other.kind := kind_eq (.object hfields) hother h
    cases hother with
    | @scalar s => cases s <;> cases hkind
    | array => cases hkind
    | @object fields' hfields' =>
      rw [canonicalChars_object, canonicalChars_object] at h
      simp only [List.cons_append, List.append_assoc, List.nil_append, List.cons.injEq,
        true_and] at h
      have hopen (entry : String × Value) (_ : entry.2.Every Scalar.Plain)
          (text text' : List Char) : entryChars entry ++ text ≠ '\x7d' :: text' := by
        simp [entryChars, quoteChars]
      obtain ⟨hentries, hafter⟩ := intercalate_comma_inj rfl (by decide) hopen
        (fun entry hmem => ⟨hfields entry hmem, entry_determined (ih entry hmem)⟩) hfields' h
      exact ⟨congrArg Document.object (Fields.toList_injective hentries), hafter⟩

end Plain

/-- Values without doubles and dates have the same canonical text just when they are equal, and the
text of an object does not depend on the order in which its entries were set. -/
theorem canonical_eq_canonical_iff :
    (∀ a b : Value, a.Plain → b.Plain → (a.canonical = b.canonical ↔ (a == b) = true)) ∧
      ∀ entries entries' : List (String × Value), entries.Perm entries' →
        (entries.map Prod.fst).Nodup →
        (object (.ofList entries)).canonical = (object (.ofList entries')).canonical := by
  refine ⟨fun a b ha hb => ?text, fun entries entries' hperm hnodup => ?order⟩
  case text =>
    rw [ha.beq_iff_eq]
    refine ⟨fun h => ?_, congrArg canonical⟩
    have hends : EndsNumber [] := fun _ hc => nomatch hc
    have hchars : a.canonicalChars ++ [] = b.canonicalChars ++ [] := by
      rw [canonicalChars, canonicalChars, h]
    exact (ha.determined b hb [] [] hends hends hchars).1
  case order => rw [Fields.ofList_eq_of_perm hperm hnodup]

/-- Quotes and commas in a string do not make it look like two strings. -/
theorem canonical_eq_canonical_iff_nested :
    let one : Value := array [string "a\",\"b"]
    let two : Value := array [string "a", string "b"]
    let entries : List (String × Value) := [("x", one), ("y", two)]
    one.Plain ∧ two.Plain ∧ one.canonical ≠ two.canonical ∧
      (object (.ofList entries)).canonical = (object (.ofList entries.reverse)).canonical := by
  intro one two entries
  have hone : one.Plain := .array (by simpa using Document.Every.scalar trivial)
  have htwo : two.Plain := .array (by simpa using ⟨.scalar trivial, .scalar trivial⟩)
  have hne : ¬(one == two) = true := by decide
  refine ⟨hone, htwo, mt (canonical_eq_canonical_iff.1 one two hone htwo).mp hne, ?_⟩
  exact canonical_eq_canonical_iff.2 entries entries.reverse (List.reverse_perm entries).symm
    (by decide)

end Value

end Cohort
