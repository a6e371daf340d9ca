import Cohort.Text.CodePoints
import Mathlib

/-!
What the tables over code points hold. A table is searched by bisection in sums of lengths; what is
found there is what one comes to by going over the runs one after another.
-/
namespace Cohort.Text

/-- How many of some runs end at or before a place. -/
def passed : List ℕ → ℕ → ℕ
  | [], _ => 0
  | length :: lengths, n => if n < length then 0 else passed lengths (n - length) + 1

def ends (start : ℕ) : List ℕ → List ℕ
  | [] => []
  | length :: lengths => (start + length) :: ends (start + length) lengths

theorem boundaries_eq (lengths : List ℕ) : boundaries lengths = (ends 0 lengths).toArray := by
  have hfrom (lengths : List ℕ) (start : ℕ) (before : Array ℕ) :
      (lengths.foldl (fun sums length => (sums.1 + length, sums.2.push (sums.1 + length)))
        (start, before)).2 = before ++ (ends start lengths).toArray := by
    induction lengths generalizing start before with
    | nil => simp [ends]
    | cons length lengths ih =>
      rw [List.foldl_cons, ih, ends]
      simp
  exact (hfrom lengths 0 #[]).trans (by simp)

theorem length_ends (start : ℕ) (lengths : List ℕ) :
    (ends start lengths).length = lengths.length := by
  induction lengths generalizing start with
  | nil => rfl
  | cons length lengths ih => rw [ends, List.length_cons, ih, List.length_cons]

theorem le_of_mem_ends {start n : ℕ} {lengths : List ℕ} (h : n ∈ ends start lengths) :
    start ≤ n := by
  induction lengths generalizing start with
  | nil => cases h
  | cons length lengths ih =>
    obtain rfl | h := List.mem_cons.mp h
    · exact Nat.le_add_right _ _
    · exact (Nat.le_add_right _ _).trans (ih h)

theorem passed_le_length (lengths : List ℕ) (n : ℕ) : passed lengths n ≤ lengths.length := by
  induction lengths generalizing n with
  | nil => exact le_rfl
  | cons length lengths ih =>
    rw [passed]
    split_ifs
    · exact Nat.zero_le _
    · exact Nat.succ_le_succ (ih _)

/-- The runs that are passed are those that end at or before the place. -/
theorem ends_le_iff {lengths : List ℕ} {start n i : ℕ} (hstart : start ≤ n)
    (hi : i < lengths.length) :
    (ends start lengths).getD i 0 ≤ n ↔ i < passed lengths (n - start) := by
  induction lengths generalizing start i with
  | nil => simp at hi
  | cons length lengths ih =>
    rw [ends, passed]
    cases i with
    | zero =>
      rw [List.getD_cons_zero]
      split_ifs <;> omega
    | succ i =>
      have hi : i < lengths.length := Nat.lt_of_succ_lt_succ hi
      rw [List.getD_cons_succ]
      split_ifs with hlength
      · have hmem : i < (ends (start + length) lengths).length := by rwa [length_ends]
        have hlater := le_of_mem_ends (List.getElem_mem hmem)
        rw [List.getD_eq_getElem _ _ hmem]
        omega
      · rw [ih (by omega) hi, Nat.add_lt_add_iff_right, Nat.sub_sub]

theorem rankBetween_eq {sorted : Array ℕ} {n k low high : ℕ} (hlow : low ≤ k) (hhigh : k ≤ high)
    (h : ∀ i < high, sorted.getD i 0 ≤ n ↔ i < k) : rankBetween sorted n low high = k := by
  fun_induction rankBetween sorted n low high with
  | case1 low high hlt middle hle ih =>
    have hmiddle : middle < k := (h middle (by omega)).mp hle
    exact ih hmiddle hhigh h
  | case2 low high hlt middle hle ih =>
    have hmiddle : ¬ middle < k := mt (h middle (by omega)).mpr hle
    exact ih hlow (by omega) fun i hi => h i (by omega)
  | case3 low high hlt => omega

theorem rank_boundaries (lengths : List ℕ) (n : ℕ) :
    rank (boundaries lengths) n = passed lengths n := by
  have hsize : (boundaries lengths).size = lengths.length := by
    rw [boundaries_eq, List.size_toArray, length_ends]
  rw [rank, hsize]
  refine rankBetween_eq (Nat.zero_le _) (passed_le_length lengths n) fun i hi => ?_
  have hends := ends_le_iff (Nat.zero_le n) hi
  rw [Nat.sub_zero] at hends
  rw [boundaries_eq]
  simpa [Array.getD_eq_getD_getElem?] using hends

/-- Cuts a text at spaces and line ends, after the letters of a word in reverse. -/
def cutWords : List Char → List Char → List (List Char)
  | word, [] => if word.isEmpty then [] else [word.reverse]
  | word, c :: text =>
    if c == ' ' || c == '\n' then
      if word.isEmpty then cutWords [] text else word.reverse :: cutWords [] text
    else cutWords (c :: word) text

def closeWord (word : List Char) (rest : List String) : List String :=
  if word.isEmpty then rest else String.ofList word :: rest

def stepWord (c : Char) (cut : List Char × List String) : List Char × List String :=
  if c == ' ' || c == '\n' then ([], closeWord cut.1 cut.2) else (c :: cut.1, cut.2)

theorem map_cutWords (word text : List Char) :
    (cutWords word text).map String.ofList =
      closeWord (word.reverse ++ (text.foldr stepWord ([], [])).1)
        (text.foldr stepWord ([], [])).2 := by
  induction text generalizing word with
  | nil => cases word <;> simp [cutWords, closeWord]
  | cons c text ih =>
    rw [cutWords, List.foldr_cons, stepWord]
    split_ifs with hc hword
    · rw [ih, List.isEmpty_iff.mp hword]
      rfl
    · have hclose (rest : List String) :
          closeWord (word.reverse ++ []) rest = String.ofList word.reverse :: rest := by
        rw [closeWord, if_neg (by simpa using hword), List.append_nil]
      rw [List.map_cons, ih, hclose]
      rfl
    · rw [ih, List.reverse_cons, List.append_assoc, List.singleton_append]

theorem words_eq (text : String) : words text = (cutWords [] text.toList).map String.ofList :=
  (map_cutWords [] text.toList).symm

theorem cutWords_append (word text rest : List Char) :
    cutWords word (text ++ ' ' :: rest) = cutWords word text ++ cutWords [] rest := by
  induction text generalizing word with
  | nil =>
    have hspace : (' ' == ' ' || ' ' == '\n') = true := rfl
    rw [List.nil_append, cutWords, cutWords, if_pos hspace]
    split_ifs <;> rfl
  | cons c text ih =>
    rw [List.cons_append, cutWords, cutWords, ih, ih]
    split_ifs <;> simp

/-- The words of texts with spaces between them are the words of each. -/
theorem cutWords_intercalate (texts : List (List Char)) :
    cutWords [] ([' '].intercalate texts) = texts.flatMap (cutWords []) := by
  induction texts with
  | nil => rfl
  | cons text texts ih =>
    rcases texts with - | ⟨next, texts⟩
    · simp
    · rw [List.intercalate_cons_of_ne_nil (by simp), List.flatMap_cons, ← ih, List.append_assoc]
      exact cutWords_append [] _ _

theorem passed_append (front back : List ℕ) (n : ℕ) :
    passed (front ++ back) n =
      if n < front.sum then passed front n else front.length + passed back (n - front.sum) := by
  induction front generalizing n with
  | nil => simp
  | cons length front ih =>
    rw [List.cons_append, passed, passed, ih, List.sum_cons, List.length_cons, Nat.sub_sub]
    split_ifs <;> omega

/-- The characters of texts, one text after another, so that each of them is read off only once. -/
theorem map_toList_cons (text : List Char) {texts : List String} {rest : List (List Char)}
    (h : texts.map String.toList = rest) :
    (String.ofList text :: texts).map String.toList = text :: rest := by
  rw [List.map_cons, String.toList_ofList, h]

def passedIn : List (List Char) → ℕ → ℕ
  | [], _ => 0
  | text :: texts, n =>
    let runs := (cutWords [] text).map digitsValue
    if n < runs.sum then passed runs n else runs.length + passedIn texts (n - runs.sum)

theorem passedIn_eq (texts : List (List Char)) (n : ℕ) :
    passedIn texts n = passed ((texts.flatMap (cutWords [])).map digitsValue) n := by
  induction texts generalizing n with
  | nil => rfl
  | cons text texts ih => rw [passedIn, List.flatMap_cons, List.map_append, passed_append, ih]

theorem contains_ofText (texts : List String) (n : ℕ) :
    (CodeSet.ofText (" ".intercalate texts)).contains n
      = (passedIn (texts.map String.toList) n % 2 == 1) := by
  rw [CodeSet.contains, CodeSet.ofText, rank_boundaries, words_eq, List.map_map, passedIn_eq,
    String.toList_intercalate, ← cutWords_intercalate]
  simp only [Function.comp_def, String.toList_ofList]
  rfl

def runLength (word : List Char) : ℕ := digitsValue (word.dropWhile fun c => !isDigit c)

/-- The mark of the run that a place lies in. -/
def markAt : List (List Char) → ℕ → Option (List Char)
  | [], _ => none
  | word :: words, n =>
    if n < runLength word then some (word.takeWhile fun c => !isDigit c)
    else markAt words (n - runLength word)

theorem markAt_append (front back : List (List Char)) (n : ℕ) :
    markAt (front ++ back) n =
      if n < (front.map runLength).sum then markAt front n
      else markAt back (n - (front.map runLength).sum) := by
  induction front generalizing n with
  | nil => simp
  | cons word front ih =>
    rw [List.cons_append, markAt, markAt, ih, List.map_cons, List.sum_cons, Nat.sub_sub]
    split_ifs <;> first | rfl | omega

def markIn : List (List Char) → ℕ → Option (List Char)
  | [], _ => none
  | text :: texts, n =>
    let words := cutWords [] text
    let length := (words.map runLength).sum
    if n < length then markAt words n else markIn texts (n - length)

theorem markIn_eq (texts : List (List Char)) (n : ℕ) :
    markIn texts n = markAt (texts.flatMap (cutWords [])) n := by
  induction texts generalizing n with
  | nil => rfl
  | cons text texts ih => rw [markIn, List.flatMap_cons, markAt_append, ih]

theorem getElem?_passed {α : Type} (value : List Char → α) (words : List (List Char)) (n : ℕ) :
    (words.map fun word => value (word.takeWhile fun c => !isDigit c))[
      passed (words.map runLength) n]? = (markAt words n).map value := by
  induction words generalizing n with
  | nil => rfl
  | cons word words ih =>
    rw [List.map_cons, List.map_cons, passed, markAt]
    split_ifs
    · rfl
    · exact ih _

theorem get_ofText {α : Type} (value : String → α) (texts : List String) (n : ℕ) (other : α) :
    (RunTable.ofText value (" ".intercalate texts)).get n other
      = ((markIn (texts.map String.toList) n).map fun mark => value (String.ofList mark)).getD
        other := by
  have hlength : runLength = fun word => digitsValue (word.dropWhile fun c => !isDigit c) := rfl
  have hspace : " ".toList = [' '] := rfl
  rw [markIn_eq, ← cutWords_intercalate, ← getElem?_passed, RunTable.get, RunTable.ofText,
    rank_boundaries, words_eq, String.toList_intercalate, hspace, hlength]
  simp [Array.getD_eq_getD_getElem?, Function.comp_def, List.span_eq_takeWhile_dropWhile]

end Cohort.Text
