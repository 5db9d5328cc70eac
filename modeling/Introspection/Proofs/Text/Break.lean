import Introspection.Proofs.Text.Integer
import Introspection.Proofs.Text.Quoted
import Introspection.Text.Case
import Introspection.Text.Line
import Mathlib.Data.List.TakeWhile

/-!
# Line feeds and carriage returns

How many of them a text holds, and what the writing of texts does to them.

* `isBreak`, `isUnbroken`: the two characters, and the texts without them;
* `occurrences`, `total`: how often a character stands in a text, or in several;
* `isUnbroken_decimal`, **`isUnbroken_quoted`**, `isBreak_eq_false_of_mem_firstLine`: integers,
  texts between quotes and first lines hold none;
* **`occurrences_upper`**: the upper case of a text holds those of the text.
-/

namespace Introspection.Text

/-- Whether a character breaks a text into lines. -/
def isBreak (c : Char) : Bool := c == '\n' || c == '\r'

/-- How often a character stands in a text. -/
def occurrences (c : Char) (s : String) : Nat := s.toList.count c

/-- How often a character stands in several texts. -/
def total (c : Char) : List String → Nat
  | [] => 0
  | s :: texts => occurrences c s + total c texts

section

variable (c : Char)

@[simp] theorem occurrences_append (s t : String) :
    occurrences c (s ++ t) = occurrences c s + occurrences c t := by
  rw [occurrences, String.toList_append, List.count_append, occurrences, occurrences]

theorem occurrences_ofList (cs : List Char) : occurrences c (String.ofList cs) = cs.count c := by
  rw [occurrences, String.toList_ofList]

theorem occurrences_eq_zero_iff {s : String} : occurrences c s = 0 ↔ c ∉ s.toList :=
  List.count_eq_zero

@[simp] theorem total_nil : total c [] = 0 := rfl

@[simp] theorem total_cons (s : String) (texts : List String) :
    total c (s :: texts) = occurrences c s + total c texts := rfl

@[simp] theorem total_append (texts others : List String) :
    total c (texts ++ others) = total c texts + total c others := by
  induction texts with
  | nil => simp
  | cons s texts ih => rw [List.cons_append, total_cons, ih, total_cons, Nat.add_assoc]

theorem total_map_eq_flatMap {α : Type} {f : α → String} {g : α → List String} {as : List α}
    (h : ∀ a ∈ as, occurrences c (f a) = total c (g a)) :
    total c (as.map f) = total c (as.flatMap g) := by
  induction as with
  | nil => rfl
  | cons a as ih =>
    rw [List.forall_mem_cons] at h
    rw [List.map_cons, total_cons, h.1, ih h.2, List.flatMap_cons, total_append]

theorem total_eq_zero_iff {texts : List String} :
    total c texts = 0 ↔ ∀ s ∈ texts, c ∉ s.toList := by
  induction texts with
  | nil => simp
  | cons s texts ih => simp [ih, occurrences_eq_zero_iff]

end

/-! ## Texts without breaks -/

theorem isBreak_iff {c : Char} : isBreak c ↔ c = '\n' ∨ c = '\r' := by simp [isBreak]

theorem isBreak_eq_false_of (p : Char → Bool) (hp : p '\n' = false ∧ p '\r' = false) {c : Char}
    (hc : p c) : isBreak c = false := by
  rw [Bool.eq_false_iff]
  intro h
  rcases isBreak_iff.mp h with rfl | rfl
  · exact Bool.eq_false_iff.mp hp.1 hc
  · exact Bool.eq_false_iff.mp hp.2 hc

/-- Whether a text is without breaks. -/
def isUnbroken (s : String) : Bool := s.toList.all (!isBreak ·)

theorem isUnbroken_iff {s : String} : isUnbroken s ↔ ∀ c ∈ s.toList, isBreak c = false := by
  simp [isUnbroken]

theorem isUnbroken_ofList {cs : List Char} (h : ∀ c ∈ cs, isBreak c = false) :
    isUnbroken (String.ofList cs) := by
  rwa [isUnbroken_iff, String.toList_ofList]

theorem isUnbroken_append {s t : String} (hs : isUnbroken s) (ht : isUnbroken t) :
    isUnbroken (s ++ t) := by
  rw [isUnbroken, String.toList_append, List.all_append, Bool.and_eq_true]
  exact ⟨hs, ht⟩

theorem isUnbroken_ite {p : Prop} [Decidable p] {s t : String} (hs : isUnbroken s)
    (ht : isUnbroken t) : isUnbroken (if p then s else t) := by
  split
  · exact hs
  · exact ht

section

variable {c : Char} (hc : isBreak c)

include hc

theorem count_eq_zero_of_forall {cs : List Char} (h : ∀ x ∈ cs, isBreak x = false) :
    cs.count c = 0 := by
  rw [List.count_eq_zero]
  intro hm
  rw [h c hm] at hc
  cases hc

theorem occurrences_of_isUnbroken {s : String} (h : isUnbroken s) : occurrences c s = 0 :=
  count_eq_zero_of_forall hc (isUnbroken_iff.mp h)

theorem occurrences_getD {default : String} (h : isUnbroken default) (value : Option String) :
    occurrences c (value.getD default) = occurrences c (value.getD "") := by
  cases value with
  | none => exact (occurrences_of_isUnbroken hc h).trans (occurrences_of_isUnbroken hc rfl).symm
  | some s => rfl

theorem occurrences_intercalate {separator : String} (h : isUnbroken separator) :
    ∀ texts : List String, occurrences c (String.intercalate separator texts) = total c texts
  | [] => by rw [String.intercalate_nil]; rfl
  | [s] => by rw [String.intercalate_singleton, total_cons, total_nil, Nat.add_zero]
  | s :: t :: texts => by
    rw [String.intercalate_cons_cons, occurrences_append, occurrences_append,
      occurrences_of_isUnbroken hc h, occurrences_intercalate h (t :: texts), Nat.add_zero,
      ← total_cons]

end

theorem isUnbroken_iff_not_mem {s : String} : isUnbroken s ↔ ∀ c, isBreak c → c ∉ s.toList := by
  rw [isUnbroken_iff]
  constructor
  · intro h c hc hm
    rw [h c hm] at hc
    cases hc
  · intro h c hm
    rw [Bool.eq_false_iff]
    exact fun hc => h c hc hm

theorem forall_isUnbroken_iff {texts : List String} :
    (∀ s ∈ texts, isUnbroken s) ↔ ∀ c, isBreak c → total c texts = 0 := by
  simp only [total_eq_zero_iff, isUnbroken_iff_not_mem]
  constructor
  · intro h c hc s hs
    exact h s hs c hc
  · intro h s hs c hc
    exact h c hc s hs

theorem isUnbroken_decimal (n : Int) : isUnbroken (decimal n) := by
  have hrepr (m : Nat) : isUnbroken m.repr :=
    isUnbroken_iff.mpr fun c hc =>
      isBreak_eq_false_of Char.isDigit (by decide) (all_isDigit_repr m c hc)
  cases n with
  | ofNat m => exact hrepr m
  | negSucc m => exact isUnbroken_append (by decide) (hrepr (m + 1))

theorem isBreak_eq_false_of_mem_hexDigits {width n : Nat} {c : Char} (h : c ∈ hexDigits width n) :
    isBreak c = false := by
  have hdigit : ∀ n < 16, isBreak (hexDigit n) = false := by decide
  induction width generalizing n with
  | zero => cases h
  | succ width ih =>
    rw [hexDigits, List.mem_append, List.mem_singleton] at h
    rcases h with h | rfl
    · exact ih h
    · exact hdigit _ (Nat.mod_lt n (by decide))

theorem isBreak_eq_false_of_mem_quotedChar {q : Char} (hq : IsQuote q) (c : Char) :
    ∀ x ∈ quotedChar q c, isBreak x = false := by
  have hescape {y : Char} {ys : List Char} (hy : isBreak y = false)
      (hys : ∀ x ∈ ys, isBreak x = false) : ∀ x ∈ '\\' :: y :: ys, isBreak x = false :=
    List.forall_mem_cons.mpr ⟨rfl, List.forall_mem_cons.mpr ⟨hy, hys⟩⟩
  have hnil : ∀ x ∈ ([] : List Char), isBreak x = false := fun x hx => nomatch hx
  rw [quotedChar]
  split
  · next hself =>
    refine hescape ?_ hnil
    rcases hself with rfl | rfl
    · rcases hq with rfl | rfl <;> rfl
    · rfl
  split
  · exact hescape rfl hnil
  split
  · exact hescape rfl hnil
  split
  · exact hescape rfl hnil
  next hline hreturn =>
  split
  · refine List.forall_mem_singleton.mpr ?_
    simp [isBreak, hline, hreturn]
  split
  · exact hescape rfl fun x => isBreak_eq_false_of_mem_hexDigits
  split
  · exact hescape rfl fun x => isBreak_eq_false_of_mem_hexDigits
  · exact hescape rfl fun x => isBreak_eq_false_of_mem_hexDigits

/-- Between quotes the breaks are written by letter. -/
theorem isUnbroken_quoted (s : String) : isUnbroken (quoted s) := by
  have hq := isQuote_quoteFor s.toList
  have hquote : isBreak (quoteFor s.toList) = false := by rcases hq with h | h <;> rw [h] <;> decide
  refine isUnbroken_ofList fun c hc => ?_
  rw [quotedChars, List.mem_append, List.mem_cons, List.mem_flatMap, List.mem_singleton] at hc
  rcases hc with (rfl | ⟨x, -, hx⟩) | rfl
  · exact hquote
  · exact isBreak_eq_false_of_mem_quotedChar hq x c hx
  · exact hquote

theorem isBreak_eq_false_of_mem_firstLine {cs : List Char} {c : Char} (h : c ∈ firstLine cs) :
    isBreak c = false :=
  isBreak_eq_false_of (!isLineEnd ·) (by decide)
    (List.mem_takeWhile_imp (p := fun c => !isLineEnd c) h)

/-! ## Upper case -/

theorem le_mapRuns_upperRuns {n : Nat} (h : 128 ≤ n) : 14 ≤ mapRuns upperRuns n := by
  have hruns : ∀ r ∈ upperRuns, 14 ≤ r.1 + r.2.2.2 := by decide +kernel
  rw [mapRuns]
  split
  · next r hr =>
    have hmem := hruns r (List.mem_of_find?_eq_some hr)
    have hle := List.find?_some hr
    simp only [Bool.and_eq_true, decide_eq_true_eq] at hle
    omega
  · omega

theorem isBreak_ofNat {n : Nat} (h : 14 ≤ n) : isBreak (Char.ofNat n) = false := by
  by_cases hvalid : n.isValidChar
  · rw [Char.ofNat, dif_pos hvalid]
    refine isBreak_eq_false_of (14 ≤ ·.toNat) (by decide) (decide_eq_true ?_)
    exact h
  · rw [Char.ofNat, dif_neg hvalid]
    decide

/-- The upper case of a character that is no break holds none. -/
theorem isBreak_eq_false_of_mem_upperChar {x y : Char} (hx : isBreak x = false)
    (hy : y ∈ upperChar x) : isBreak y = false := by
  rw [upperChar] at hy
  split at hy
  · next hlow =>
    have hupper : isBreak x.toUpper = isBreak x :=
      of_forall_ascii (p := fun c => isBreak c.toUpper = isBreak c) (by decide) hlow
    rw [List.mem_singleton.mp hy, hupper, hx]
  · next hhigh =>
    have hle : 128 ≤ x.toNat := Nat.not_lt.mp hhigh
    split at hy
    · next e he =>
      obtain ⟨n, hn, rfl⟩ := List.mem_map.mp hy
      have hall : upperExpansions.all fun e => e.2.all (14 ≤ ·) := by decide +kernel
      have := List.all_eq_true.mp hall e (List.mem_of_find?_eq_some he)
      exact isBreak_ofNat (of_decide_eq_true (List.all_eq_true.mp this n hn))
    · rw [List.mem_singleton.mp hy]
      exact isBreak_ofNat (le_mapRuns_upperRuns hle)

theorem count_upperChar {c : Char} (hc : isBreak c) (x : Char) :
    (upperChar x).count c = [x].count c := by
  cases hx : isBreak x with
  | true => rcases isBreak_iff.mp hx with rfl | rfl <;> rfl
  | false =>
    rw [count_eq_zero_of_forall hc fun y hy => isBreak_eq_false_of_mem_upperChar hx hy,
      count_eq_zero_of_forall hc (List.forall_mem_singleton.mpr hx)]

/-- **The upper case of a text holds the breaks of the text.** -/
theorem occurrences_upper {c : Char} (hc : isBreak c) (s : String) :
    occurrences c (upper s) = occurrences c s := by
  rw [upper, occurrences_ofList, occurrences]
  induction s.toList with
  | nil => rfl
  | cons x cs ih =>
    rw [List.flatMap_cons, List.count_append, ih, count_upperChar hc, ← List.count_append,
      List.singleton_append]

end Introspection.Text
