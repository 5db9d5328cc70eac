import Mathlib.Data.List.Induction
import Mathlib.Data.List.TakeWhile
import Mathlib.Data.Nat.Digits.Defs
import Introspection.Proofs.Text.Integer

/-!
# Numerals

The texts of integers: blanks, perhaps a sign, digits of any script that single underscores may
group, and blanks. The reader of integers takes these and no others.

* `trim_append`, `exists_trim`, `trim_trim`: texts without the blanks at their ends;
* `Digits`, `readDigits?_eq_some_iff`: groups of digits;
* `Sign`, `Numeral`, `Numeral.text`, `Numeral.value`: numerals, their texts and what they stand for;
* `Numeral.Fits`: numerals with no more digits than are read;
* **`readInteger?_text`**, **`readInteger?_eq_some_iff`**: what is read of a numeral, and that
  nothing else is read;
* `Numeral.natAbs_value_lt`: how large it can be;
* **`readInteger?_decimal`**: integers of that size are read back from their canonical texts;
* **`Numeral.length_decimal_le`**: no numeral is shorter than the canonical text.
-/

namespace Introspection.Text

/-! ## Blanks at the ends -/

/-- A text neither begins nor ends with a blank. -/
structure Trimmed (cs : List Char) : Prop where
  head : ∀ c ∈ cs.head?, isBlank c = false
  last : ∀ c ∈ cs.getLast?, isBlank c = false

theorem dropWhile_eq_self {p : Char → Bool} {cs : List Char} (h : ∀ c ∈ cs.head?, p c = false) :
    cs.dropWhile p = cs := by
  cases cs with
  | nil => rfl
  | cons c cs => rw [List.dropWhile_cons_of_neg (by simp [h c rfl])]

theorem trim_append {lead cs trail : List Char} (hl : ∀ c ∈ lead, isBlank c)
    (ht : ∀ c ∈ trail, isBlank c) (h : Trimmed cs) (hne : cs ≠ []) :
    trim (lead ++ cs ++ trail) = cs := by
  have hleft : trimLeft (lead ++ cs ++ trail) = cs ++ trail := by
    rw [trimLeft, List.append_assoc, List.dropWhile_append_of_pos hl]
    refine dropWhile_eq_self ?_
    obtain ⟨c, rest, rfl⟩ := List.exists_cons_of_ne_nil hne
    exact h.head
  have hright : ∀ c ∈ trail.reverse, isBlank c := fun c hc => ht c (List.mem_reverse.mp hc)
  have hrest : cs.reverse.dropWhile isBlank = cs.reverse :=
    dropWhile_eq_self (by simpa using h.last)
  rw [trim, hleft, trimRight, trimLeft, List.reverse_append, List.dropWhile_append_of_pos hright,
    hrest, List.reverse_reverse]

theorem exists_trimRight (cs : List Char) :
    ∃ trail, cs = trimRight cs ++ trail ∧ ∀ c ∈ trail, isBlank c := by
  refine ⟨(cs.reverse.takeWhile isBlank).reverse, ?_, fun c hc => ?_⟩
  · rw [trimRight, trimLeft, ← List.reverse_append, List.takeWhile_append_dropWhile,
      List.reverse_reverse]
  · exact List.mem_takeWhile_imp (List.mem_reverse.mp hc)

theorem exists_trim (cs : List Char) : ∃ lead trail, cs = lead ++ trim cs ++ trail ∧
    (∀ c ∈ lead, isBlank c) ∧ ∀ c ∈ trail, isBlank c := by
  obtain ⟨trail, heq, ht⟩ := exists_trimRight (trimLeft cs)
  refine ⟨cs.takeWhile isBlank, trail, ?_, fun c hc => List.mem_takeWhile_imp hc, ht⟩
  rw [trim, List.append_assoc, ← heq, trimLeft, List.takeWhile_append_dropWhile]

theorem trimmed_trim (cs : List Char) : Trimmed (trim cs) := by
  have hdrop : ∀ ds : List Char, ∀ c ∈ (trimLeft ds).head?, isBlank c = false := by
    intro ds c hc
    have := List.head?_dropWhile_not isBlank ds
    rwa [show (ds.dropWhile isBlank).head? = some c from hc] at this
  constructor
  · intro c hc
    obtain ⟨trail, heq, -⟩ := exists_trimRight (trimLeft cs)
    refine hdrop cs c ?_
    rw [heq, List.head?_append, show (trimRight (trimLeft cs)).head? = some c from hc]
    rfl
  · intro c hc
    rw [trim, trimRight, List.getLast?_reverse] at hc
    exact hdrop _ c hc

theorem trim_trim (cs : List Char) : trim (trim cs) = trim cs := by
  by_cases hne : trim cs = []
  · rw [hne]
    rfl
  · have hends : trim ([] ++ trim cs ++ []) = trim cs :=
      trim_append nofun nofun (trimmed_trim cs) hne
    rwa [List.nil_append, List.append_nil] at hends

/-! ## Digits -/

/-- A digit is at most nine places behind the zero of its script. -/
theorem exists_zero_of_digitValue? {c : Char} {d : Nat} (h : digitValue? c = some d) :
    ∃ z ∈ zeros, c.toNat = z + d ∧ d < 10 := by
  rw [digitValue?, Option.map_eq_some_iff] at h
  obtain ⟨z, hz, rfl⟩ := h
  have hrange := List.find?_some hz
  rw [Bool.and_eq_true, decide_eq_true_eq, decide_eq_true_eq] at hrange
  exact ⟨z, List.mem_of_find?_eq_some hz, by omega, by omega⟩

theorem isBlank_of_digitValue? {c : Char} {d : Nat} (h : digitValue? c = some d) :
    isBlank c = false := by
  have apart : ∀ z ∈ zeros, ∀ d < 10, inRanges blankRanges (z + d) = false := by decide +kernel
  obtain ⟨z, hz, hc, hd⟩ := exists_zero_of_digitValue? h
  rw [isBlank, hc]
  exact apart z hz d hd

theorem digitValue?_of_isDigit {c : Char} (h : c.isDigit) :
    digitValue? c = some (c.toNat - '0'.toNat) := by
  have hc : c.toNat < 128 := by
    simp only [Char.isDigit, Bool.and_eq_true, decide_eq_true_eq] at h
    have : c.toNat ≤ '9'.toNat := h.2
    exact Nat.lt_of_le_of_lt this (by decide)
  exact of_forall_ascii (p := fun c => c.isDigit → digitValue? c = some (c.toNat - '0'.toNat))
    (by decide +kernel) hc h

/-- Digits with their values; a single underscore may stand between two of them. -/
inductive Digits : List Char → List Nat → Prop where
  | last {c : Char} {d : Nat} (hc : digitValue? c = some d) : Digits [c] [d]
  | cons {c : Char} {d : Nat} {cs : List Char} {ds : List Nat} (hc : digitValue? c = some d)
    (rest : Digits cs ds) : Digits (c :: cs) (d :: ds)
  | group {c : Char} {d : Nat} {cs : List Char} {ds : List Nat} (hc : digitValue? c = some d)
    (rest : Digits cs ds) : Digits (c :: '_' :: cs) (d :: ds)

namespace Digits

variable {cs : List Char} {ds : List Nat}

theorem exists_head (h : Digits cs ds) : ∃ c rest d, cs = c :: rest ∧ digitValue? c = some d := by
  cases h with
  | last hc | cons hc | group hc => exact ⟨_, _, _, rfl, hc⟩

theorem exists_last (h : Digits cs ds) :
    ∃ init c d, cs = init ++ [c] ∧ digitValue? c = some d := by
  induction h with
  | last hc => exact ⟨[], _, _, rfl, hc⟩
  | @cons a _ _ _ _ _ ih =>
    obtain ⟨init, c, d, rfl, hc⟩ := ih
    exact ⟨a :: init, c, d, rfl, hc⟩
  | @group a _ _ _ _ _ ih =>
    obtain ⟨init, c, d, rfl, hc⟩ := ih
    exact ⟨a :: '_' :: init, c, d, rfl, hc⟩

theorem length_le (h : Digits cs ds) : ds.length ≤ cs.length := by
  induction h with
  | last => exact Nat.le_refl _
  | cons _ _ ih => exact Nat.succ_le_succ ih
  | group _ _ ih => exact Nat.le_succ_of_le (Nat.succ_le_succ ih)

theorem length_pos (h : Digits cs ds) : 0 < ds.length := by
  cases h <;> exact Nat.succ_pos _

theorem lt_ten (h : Digits cs ds) : ∀ d ∈ ds, d < 10 := by
  have hlt : ∀ {c d}, digitValue? c = some d → d < 10 := by
    intro c d hc
    obtain ⟨_, -, -, hd⟩ := exists_zero_of_digitValue? hc
    exact hd
  induction h with
  | last hc => exact List.forall_mem_singleton.mpr (hlt hc)
  | cons hc _ ih | group hc _ ih => exact List.forall_mem_cons.mpr ⟨hlt hc, ih⟩

theorem of_isDigit (h : ∀ c ∈ cs, c.isDigit) (hne : cs ≠ []) :
    Digits cs (cs.map fun c => c.toNat - '0'.toNat) := by
  induction cs with
  | nil => exact absurd rfl hne
  | cons c cs ih =>
    rw [List.forall_mem_cons] at h
    have hc := digitValue?_of_isDigit h.1
    by_cases hcs : cs = []
    · rw [hcs]
      exact .last hc
    · exact .cons hc (ih h.2 hcs)

end Digits

/-- **What is read as digits are digits.** -/
theorem readDigits?_eq_some_iff {cs : List Char} {ds : List Nat} :
    readDigits? cs = some ds ↔ Digits cs ds := by
  constructor
  · intro h
    fun_induction readDigits? cs generalizing ds with
    | case1 => cases h
    | case2 => cases h
    | case3 c d hc =>
      cases h
      exact .last hc
    | case4 c d rest hc ih =>
      obtain ⟨ds, hds, rfl⟩ := Option.map_eq_some_iff.mp h
      exact .group hc (ih hds)
    | case5 c d rest _ _ hc ih =>
      obtain ⟨ds, hds, rfl⟩ := Option.map_eq_some_iff.mp h
      exact .cons hc (ih hds)
  · intro h
    induction h with
    | last hc => simp [readDigits?, hc]
    | group hc _ ih => simp [readDigits?, hc, ih]
    | cons hc rest ih =>
      obtain ⟨x, xs, d, rfl, hx⟩ := rest.exists_head
      have hne : x ≠ '_' := by
        rintro rfl
        cases hx
      simp [readDigits?, hc, ih, hne]

/-! ## Numerals -/

/-- The signs in front of digits. -/
inductive Sign where
  | none
  | plus
  | minus
deriving DecidableEq, Repr

namespace Sign

def text : Sign → List Char
  | none => []
  | plus => ['+']
  | minus => ['-']

/-- What a sign makes of a number. -/
def apply : Sign → Nat → Int
  | none, n | plus, n => n
  | minus, n => -n

theorem natAbs_apply (s : Sign) (n : Nat) : (s.apply n).natAbs = n := by
  cases s <;> simp [apply]

end Sign

/-- A numeral with its parts. -/
structure Numeral where
  lead : List Char
  sign : Sign
  digits : List Char
  /-- The values of the digits. -/
  values : List Nat
  trail : List Char
  blank_lead : ∀ c ∈ lead, isBlank c
  blank_trail : ∀ c ∈ trail, isBlank c
  reads : Digits digits values

namespace Numeral

variable (x : Numeral)

/-- What stands between the blanks. -/
def core : List Char := x.sign.text ++ x.digits

def text : List Char := x.lead ++ x.core ++ x.trail

/-- The integer that a numeral stands for. -/
def value : Int := x.sign.apply (ofDigits x.values)

/-- A numeral has no more digits than are read. -/
def Fits : Prop := x.values.length ≤ digitLimit

instance : Decidable x.Fits := inferInstanceAs (Decidable (x.values.length ≤ digitLimit))

theorem core_ne_nil : x.core ≠ [] := by
  obtain ⟨c, rest, -, hdigits, -⟩ := x.reads.exists_head
  rw [core, hdigits]
  simp

theorem trimmed_core : Trimmed x.core := by
  obtain ⟨c, rest, d, hhead, hc⟩ := x.reads.exists_head
  obtain ⟨init, l, d', hlast, hl⟩ := x.reads.exists_last
  constructor
  · rw [core, hhead]
    cases x.sign with
    | none => simp [Sign.text, isBlank_of_digitValue? hc]
    | plus | minus => simp [Sign.text]; decide
  · rw [core, hlast, ← List.append_assoc, List.getLast?_concat]
    simp [isBlank_of_digitValue? hl]

theorem trim_text : trim x.text = x.core :=
  trim_append x.blank_lead x.blank_trail x.trimmed_core x.core_ne_nil

end Numeral

theorem readNatural?_digits {cs : List Char} {ds : List Nat} (h : Digits cs ds) :
    readNatural? cs = if ds.length ≤ digitLimit then some (ofDigits ds) else none := by
  rw [readNatural?, readDigits?_eq_some_iff.mpr h, Option.bind_some]

theorem exists_digits_of_readNatural? {cs : List Char} {k : Nat} (h : readNatural? cs = some k) :
    ∃ ds, Digits cs ds ∧ ds.length ≤ digitLimit ∧ ofDigits ds = k := by
  obtain ⟨ds, hds, hk⟩ := Option.bind_eq_some_iff.mp h
  rw [Option.ite_none_right_eq_some, Option.some.injEq] at hk
  exact ⟨ds, readDigits?_eq_some_iff.mp hds, hk⟩

theorem readSigned?_minus (cs : List Char) :
    readSigned? ('-' :: cs) = (readNatural? cs).map Sign.minus.apply := by
  change Option.map _ _ = _
  cases readNatural? cs <;> rfl

theorem readSigned?_append (s : Sign) {cs : List Char} {ds : List Nat} (h : Digits cs ds) :
    readSigned? (s.text ++ cs) = (readNatural? cs).map s.apply := by
  cases s with
  | none =>
    obtain ⟨c, rest, d, rfl, hc⟩ := h.exists_head
    have hne : c ≠ '-' ∧ c ≠ '+' := by
      constructor
      all_goals
        rintro rfl
        cases hc
    simp [Sign.text, readSigned?, hne]
    rfl
  | plus => rfl
  | minus => exact readSigned?_minus cs

theorem exists_sign_of_readSigned? {cs : List Char} {n : Int} (h : readSigned? cs = some n) :
    ∃ (s : Sign) (digits : List Char) (k : Nat),
      cs = s.text ++ digits ∧ readNatural? digits = some k ∧ s.apply k = n := by
  -- The sign is told by the first character.
  by_cases hminus : ∃ rest, cs = '-' :: rest
  · obtain ⟨rest, rfl⟩ := hminus
    rw [readSigned?_minus] at h
    obtain ⟨k, hk, hn⟩ := Option.map_eq_some_iff.mp h
    exact ⟨.minus, rest, k, rfl, hk, hn⟩
  · unfold readSigned? at h
    split at h
    · exact absurd ⟨_, rfl⟩ hminus
    · obtain ⟨k, hk, hn⟩ := Option.map_eq_some_iff.mp h
      exact ⟨.plus, _, k, rfl, hk, hn⟩
    · obtain ⟨k, hk, hn⟩ := Option.map_eq_some_iff.mp h
      exact ⟨.none, _, k, rfl, hk, hn⟩

/-- **What is read of a numeral**: nothing if it has too many digits. -/
theorem readInteger?_text (x : Numeral) :
    readInteger? (String.ofList x.text) = if x.Fits then some x.value else none := by
  rw [readInteger?, String.toList_ofList, x.trim_text, Numeral.core, readSigned?_append _ x.reads,
    readNatural?_digits x.reads, apply_ite (Option.map _)]
  rfl

/-- **The reader of integers takes numerals and nothing else.** -/
theorem readInteger?_eq_some_iff {s : String} {n : Int} :
    readInteger? s = some n ↔ ∃ x : Numeral, x.text = s.toList ∧ x.Fits ∧ x.value = n := by
  constructor
  · intro h
    obtain ⟨sign, digits, k, hcore, hk, hn⟩ := exists_sign_of_readSigned? h
    obtain ⟨ds, hds, hle, rfl⟩ := exists_digits_of_readNatural? hk
    obtain ⟨lead, trail, hs, hl, ht⟩ := exists_trim s.toList
    refine ⟨⟨lead, sign, digits, ds, trail, hl, ht, hds⟩, ?_, hle, hn⟩
    rw [Numeral.text, Numeral.core, ← hcore]
    exact hs.symm
  · rintro ⟨x, hx, hfits, rfl⟩
    rw [← String.ofList_toList (s := s), ← hx, readInteger?_text, if_pos hfits]

theorem readInteger?_trim (s : String) :
    readInteger? (String.ofList (trim s.toList)) = readInteger? s := by
  rw [readInteger?, String.toList_ofList, trim_trim, readInteger?]

/-! ## Canonical texts -/

theorem ofDigits_lt {ds : List Nat} (h : ∀ d ∈ ds, d < 10) : ofDigits ds < 10 ^ ds.length := by
  induction ds using List.reverseRecOn with
  | nil => exact Nat.one_pos
  | append_singleton ds d ih =>
    rw [List.forall_mem_append, List.forall_mem_singleton] at h
    have hds := ih h.1
    have hd := h.2
    rw [ofDigits, List.foldl_append, List.foldl_cons, List.foldl_nil, ← ofDigits,
      List.length_append, List.length_singleton, Nat.pow_succ]
    omega

/-- How large an integer can be that is read. -/
theorem Numeral.natAbs_value_lt {x : Numeral} (h : x.Fits) : x.value.natAbs < 10 ^ digitLimit := by
  rw [value, Sign.natAbs_apply]
  exact Nat.lt_of_lt_of_le (ofDigits_lt x.reads.lt_ten) (Nat.pow_le_pow_right (by decide) h)

theorem ofDigits_repr (n : Nat) :
    ofDigits (n.repr.toList.map fun c => c.toNat - '0'.toNat) = n := by
  have h : Nat.ofDigitChars 10 (Nat.toDigits 10 n) 0 = n := Nat.ofDigitChars_ten_toDigits
  rw [ofDigits, List.foldl_map, toList_repr]
  exact h

theorem exists_numeral_decimal {n : Int} (h : n.natAbs < 10 ^ digitLimit) :
    ∃ x : Numeral, x.text = (decimal n).toList ∧ x.Fits ∧ x.value = n := by
  have hdigits : ∀ k : Nat, Digits k.repr.toList (k.repr.toList.map fun c => c.toNat - '0'.toNat) :=
    fun k => .of_isDigit (all_isDigit_repr k) fun hnil => by
      obtain ⟨c, cs, hcs, -⟩ := exists_repr_eq_cons k
      rw [hnil] at hcs
      cases hcs
  have hlength : ∀ k : Nat, k < 10 ^ digitLimit →
      (k.repr.toList.map fun c => c.toNat - '0'.toNat).length ≤ digitLimit := by
    intro k hk
    rw [List.length_map, toList_repr]
    exact Nat.toDigits_length 10 k digitLimit (by decide) hk
  cases n with
  | ofNat k =>
    refine ⟨⟨[], .none, _, _, [], nofun, nofun, hdigits k⟩, ?_, hlength k h, ?_⟩
    · simp [Numeral.text, Numeral.core, Sign.text, decimal]
    · rw [Numeral.value, ofDigits_repr]
      rfl
  | negSucc k =>
    refine ⟨⟨[], .minus, _, _, [], nofun, nofun, hdigits (k + 1)⟩, ?_, hlength (k + 1) h, ?_⟩
    · simp [Numeral.text, Numeral.core, Sign.text, decimal]
    · rw [Numeral.value, ofDigits_repr]
      rfl

/-- **An integer that is not too large is read back from its canonical text.** -/
theorem readInteger?_decimal {n : Int} (h : n.natAbs < 10 ^ digitLimit) :
    readInteger? (decimal n) = some n :=
  readInteger?_eq_some_iff.mpr (exists_numeral_decimal h)

theorem readInteger?_decimal_of_read {s : String} {n : Int} (h : readInteger? s = some n) :
    readInteger? (decimal n) = some n := by
  obtain ⟨x, -, hfits, rfl⟩ := readInteger?_eq_some_iff.mp h
  exact readInteger?_decimal (Numeral.natAbs_value_lt hfits)

theorem length_repr_le {cs : List Char} {ds : List Nat} (h : Digits cs ds) :
    (ofDigits ds).repr.toList.length ≤ cs.length := by
  rw [toList_repr]
  exact (Nat.toDigits_length 10 _ _ h.length_pos (ofDigits_lt h.lt_ten)).trans h.length_le

/-- **The canonical text is the shortest one.** -/
theorem Numeral.length_decimal_le (x : Numeral) :
    (decimal x.value).toList.length ≤ x.text.length := by
  have hdigits := length_repr_le x.reads
  have htext : x.sign.text.length + x.digits.length ≤ x.text.length := by
    rw [text, core, List.length_append, List.length_append, List.length_append]
    omega
  rw [value]
  cases hs : x.sign with
  | none | plus =>
    rw [hs] at htext
    exact (hdigits.trans (Nat.le_add_left _ _)).trans htext
  | minus =>
    rw [hs] at htext
    -- A zero loses its sign.
    cases hk : ofDigits x.values with
    | zero =>
      rw [hk] at hdigits
      exact (hdigits.trans (Nat.le_add_left _ _)).trans htext
    | succ k =>
      rw [hk] at hdigits
      change (decimal (.negSucc k)).toList.length ≤ _
      rw [decimal, String.toList_append, List.length_append]
      exact (Nat.add_le_add_left hdigits 1).trans htext

end Introspection.Text
