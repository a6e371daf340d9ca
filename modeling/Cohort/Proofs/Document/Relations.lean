import Cohort.Proofs.Document.Agreement
import Mathlib

/-!
What agreement takes over from the relation of scalars that it asks for: it is symmetric and
transitive when that relation is, and a document agrees with itself when every scalar in it is
related to itself. Two objects agree when they have equally many entries and every entry of the
first is met by the one that the second has under the same key.
-/
namespace Cohort

section Lists
variable {ι κ ν : Type} {R : ι → κ → Prop} {S : κ → ν → Prop} {T : ι → ν → Prop}
  {xs : List ι} {ys : List κ} {zs : List ν}

theorem forall₂_trans (h : ∀ x y z, R x y → S y z → T x z) (hR : List.Forall₂ R xs ys)
    (hS : List.Forall₂ S ys zs) : List.Forall₂ T xs zs := by
  induction hR generalizing zs with
  | nil =>
    cases hS
    exact .nil
  | cons hxy _ ih =>
    cases hS with
    | cons hyz hS => exact .cons (h _ _ _ hxy hyz) (ih hS)

theorem exists_of_forall₂ (h : List.Forall₂ R xs ys) : ∀ x ∈ xs, ∃ y ∈ ys, R x y := by
  induction h with
  | nil => exact List.forall_mem_nil _
  | @cons x y xs ys hxy _ ih =>
    refine List.forall_mem_cons.mpr ⟨⟨y, List.mem_cons_self, hxy⟩, fun x' hmem => ?_⟩
    obtain ⟨y', hmem', hxy'⟩ := ih x' hmem
    exact ⟨y', List.mem_cons_of_mem _ hmem', hxy'⟩

/-- Relations that mean the same for the members at the same places mean the same for the lists. -/
theorem forall₂_iff_of_forall₂ {R' : ι → κ → Prop}
    (h : List.Forall₂ (fun x y => R x y ↔ R' x y) xs ys) :
    List.Forall₂ R xs ys ↔ List.Forall₂ R' xs ys := by
  induction h with
  | nil => exact iff_of_true .nil .nil
  | cons hxy _ ih => rw [List.forall₂_cons, List.forall₂_cons, hxy, ih]

end Lists

variable {α β γ : Type}

namespace Document

theorem every_of_forall {p : α → Prop} (h : ∀ value, p value) (document : Document α) :
    document.Every p := by
  induction document with
  | scalar value => exact .scalar (h value)
  | array items ih => exact .array ih
  | object fields ih => exact .object ih

theorem agree_self_iff {r : α → α → Bool} {document : Document α} :
    document.agree r document = true ↔ document.Every fun value => r value value = true := by
  induction document with
  | scalar value => rw [agree, every_scalar]
  | array items ih =>
    rw [agree, agreeItems_iff, List.forall₂_same, every_array]
    exact forall₂_congr ih
  | object fields ih =>
    rw [agree, Fields.agree_iff, List.forall₂_same, every_object]
    exact forall₂_congr fun entry hmem => (and_iff_right rfl).trans (ih entry hmem)

section Pair
variable {r : α → β → Bool} {x : Document α} {y : Document β}

theorem agree_of_flip {s : β → α → Bool} (hrs : ∀ a b, r a b = true → s b a = true)
    (h : x.agree r y = true) : y.agree s x = true := by
  refine agree_induct (fun a b hab => ?scalar) (fun xs ys hitems => ?array)
    (fun xs ys hentries => ?object) h
  case scalar =>
    rw [agree]
    exact hrs a b hab
  case array =>
    rw [agree, agreeItems_iff]
    exact (hitems.imp fun _ _ hitem => hitem.2).flip
  case object =>
    rw [agree, Fields.agree_iff]
    exact (hentries.imp fun _ _ hentry => (⟨hentry.1.symm, hentry.2.2⟩ : _ ∧ _)).flip

/-- Agreement does not depend on which document comes first when the relation does not. -/
theorem agree_comm {s : β → α → Bool} (hrs : ∀ a b, r a b = s b a) :
    x.agree r y = y.agree s x :=
  Bool.eq_iff_iff.mpr ⟨agree_of_flip fun a b => (hrs a b).symm.trans,
    agree_of_flip fun b a => (hrs a b).trans⟩

/-- A relation may be replaced by one that follows from it for the scalars that occur. -/
theorem agree_imp_of_every {s : α → β → Bool} {p : α → Prop} {q : β → Prop}
    (h : ∀ a b, p a → q b → r a b = true → s a b = true) (hagree : x.agree r y = true) :
    x.Every p → y.Every q → x.agree s y = true := by
  refine agree_induct (fun a b hab => ?scalar) (fun xs ys hitems => ?array)
    (fun xs ys hentries => ?object) hagree
  case scalar =>
    rw [every_scalar, every_scalar, agree]
    exact fun ha hb => h a b ha hb hab
  case array =>
    rw [every_array, every_array, agree, agreeItems_iff]
    intro hxs hys
    exact forall₂_of_mem (fun x hx y hy hitem => hitem.2 (hxs x hx) (hys y hy)) hitems
  case object =>
    rw [every_object, every_object, agree, Fields.agree_iff]
    intro hxs hys
    exact forall₂_of_mem
      (fun x hx y hy hentry => ⟨hentry.1, hentry.2.2 (hxs x hx) (hys y hy)⟩) hentries

theorem agree_imp {s : α → β → Bool} (h : ∀ a b, r a b = true → s a b = true)
    (hagree : x.agree r y = true) : x.agree s y = true :=
  agree_imp_of_every (p := fun _ => True) (q := fun _ => True) (fun a b _ _ => h a b) hagree
    (every_of_forall (fun _ => trivial) x) (every_of_forall (fun _ => trivial) y)

/-- Two relations that mean the same for scalars which stand in a third one mean the same for
documents that agree under it. -/
theorem agree_iff_of_agree {s t : α → β → Bool}
    (h : ∀ a b, r a b = true → (s a b = true ↔ t a b = true)) (hagree : x.agree r y = true) :
    x.agree s y = true ↔ x.agree t y = true := by
  refine agree_induct (fun a b hab => ?scalar) (fun xs ys hitems => ?array)
    (fun xs ys hentries => ?object) hagree
  case scalar =>
    rw [agree, agree]
    exact h a b hab
  case array =>
    rw [agree, agree, agreeItems_iff, agreeItems_iff]
    exact forall₂_iff_of_forall₂ (hitems.imp fun _ _ hitem => hitem.2)
  case object =>
    rw [agree, agree, Fields.agree_iff, Fields.agree_iff]
    exact forall₂_iff_of_forall₂ (hentries.imp fun _ _ hentry => and_congr_right' hentry.2.2)

end Pair

/-- Agreement of one document with a second and of that with a third is agreement of the first with
the third. -/
theorem agree_trans {r : α → β → Bool} {s : β → γ → Bool} {t : α → γ → Bool}
    (h : ∀ a b c, r a b = true → s b c = true → t a c = true) {x : Document α} {y : Document β}
    (hxy : x.agree r y = true) : ∀ z : Document γ, y.agree s z = true → x.agree t z = true := by
  refine agree_induct (fun a b hab z hz => ?scalar) (fun xs ys hitems z hz => ?array)
    (fun xs ys hentries z hz => ?object) hxy
  case scalar =>
    cases z with
    | scalar c =>
      rw [agree] at hz ⊢
      exact h a b c hab hz
    | _ => simp [agree] at hz
  case array =>
    cases z with
    | array zs =>
      rw [agree, agreeItems_iff] at hz ⊢
      exact forall₂_trans (fun _ _ z hitem => hitem.2 z) hitems hz
    | _ => simp [agree] at hz
  case object =>
    cases z with
    | object zs =>
      rw [agree, Fields.agree_iff] at hz ⊢
      exact forall₂_trans (fun _ _ z hentry hyz =>
        ⟨hentry.1.trans hyz.1, hentry.2.2 z.2 hyz.2⟩) hentries hz
    | _ => simp [agree] at hz

end Document

namespace Fields
variable {r : α → β → Bool} {xs : Fields α none} {ys : Fields β none}

/-- Objects of one size have the same keys when one has all the keys of the other. -/
theorem keys_eq_of_subset (hsize : xs.size = ys.size) (hsubset : xs.keys ⊆ ys.keys) :
    xs.keys = ys.keys := by
  have hlength : ys.keys.length ≤ xs.keys.length := by
    rw [keys, keys, List.length_map, List.length_map]
    exact hsize.ge
  have hperm := (List.subperm_of_subset xs.nodup_keys hsubset).perm_of_length_le hlength
  exact hperm.eq_of_pairwise (fun _ _ _ _ hlt hgt => absurd hlt hgt.asymm) xs.pairwise_keys
    ys.pairwise_keys

/-- Entries of two lists with the same keys are related at the same places when each is related to
whatever stands under its key in the other list. -/
theorem forall₂_of_keys_eq {δ ε : Type} {R : String × δ → String × ε → Prop}
    {entries : List (String × δ)} {entries' : List (String × ε)}
    (hkeys : entries.map Prod.fst = entries'.map Prod.fst)
    (h : ∀ x ∈ entries, ∀ y ∈ entries', x.1 = y.1 → R x y) : List.Forall₂ R entries entries' := by
  have hsame : List.Forall₂ Eq (entries.map Prod.fst) (entries'.map Prod.fst) :=
    hkeys ▸ List.forall₂_same.mpr fun _ _ => rfl
  exact forall₂_of_mem h (List.forall₂_map_right_iff.mp (List.forall₂_map_left_iff.mp hsame))

/-- Objects agree just when they have equally many entries and every entry of the first is met by
the one under its key in the second. -/
theorem agree_eq_lookup : xs.agree r ys =
    (xs.size == ys.size &&
      xs.toList.all fun entry => (ys.get? entry.1).any (entry.2.agree r ·)) := by
  rw [Bool.eq_iff_iff, agree_iff, Bool.and_eq_true, beq_iff_eq, List.all_eq_true]
  simp only [Option.any_eq_true]
  constructor
  · intro hentries
    refine ⟨hentries.length_eq, fun entry hmem => ?_⟩
    obtain ⟨entry', hmem', hkey, hagree⟩ := exists_of_forall₂ hentries entry hmem
    exact ⟨entry'.2, get?_eq_some_iff.mpr (hkey ▸ hmem'), hagree⟩
  · rintro ⟨hsize, hlookup⟩
    have hkeys : xs.keys = ys.keys := by
      refine keys_eq_of_subset hsize fun key hkey => ?_
      obtain ⟨entry, hmem, rfl⟩ := List.mem_map.mp hkey
      obtain ⟨other, hother, -⟩ := hlookup entry hmem
      exact List.mem_map.mpr ⟨_, get?_eq_some_iff.mp hother, rfl⟩
    refine forall₂_of_keys_eq hkeys fun entry hmem entry' hmem' hkey => ?_
    obtain ⟨other, hother, hagree⟩ := hlookup entry hmem
    have hfound : ys.get? entry.1 = some entry'.2 := get?_eq_some_iff.mpr (hkey ▸ hmem')
    rw [Option.some.inj (hother.symm.trans hfound)] at hagree
    exact ⟨hkey, hagree⟩

end Fields

end Cohort
