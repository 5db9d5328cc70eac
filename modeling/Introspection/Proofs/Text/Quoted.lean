import Introspection.Text.Quoted

/-!
# Reading quoted text

Quoted text can be read back, and it is known where it ends. So different texts stay different
between quotes, whatever follows them.

* `hexNumber`, `hexNumber_hexDigits`: the number that digits stand for;
* `readChar`, `readChar_quotedChar`: one character between quotes;
* **`quotedChars_append_inj`**: quoted texts with something behind them.
-/

namespace Introspection.Text

/-! ## Digits -/

/-- The number that hexadecimal digits stand for. -/
def hexNumber (cs : List Char) : Nat := cs.foldl (fun n c => 16 * n + (hexValue? c).getD 0) 0

theorem hexValue?_hexDigit {n : Nat} (h : n < 16) : hexValue? (hexDigit n) = some n := by
  have : ∀ n < 16, hexValue? (hexDigit n) = some n := by decide
  exact this n h

theorem length_hexDigits (width n : Nat) : (hexDigits width n).length = width := by
  induction width generalizing n with
  | zero => rfl
  | succ width ih => rw [hexDigits, List.length_append, ih, List.length_singleton]

theorem hexNumber_hexDigits (width n : Nat) :
    hexNumber (hexDigits width n) = n % Nat.pow 16 width := by
  induction width generalizing n with
  | zero => exact (Nat.mod_one n).symm
  | succ width ih =>
    have hlast := hexValue?_hexDigit (Nat.mod_lt n (by decide : 0 < 16))
    have hinit := ih (n / 16)
    rw [hexNumber] at hinit
    rw [hexDigits, hexNumber, List.foldl_append, hinit, List.foldl_cons, List.foldl_nil, hlast,
      Option.getD_some, show Nat.pow 16 (width + 1) = 16 * Nat.pow 16 width from Nat.mul_comm _ _,
      Nat.mod_mul, Nat.add_comm]

/-! ## Characters -/

/-- Reads the code of a character in a number of digits. -/
def readCode (width : Nat) (cs : List Char) : Char × List Char :=
  (Char.ofNat (hexNumber (cs.take width)), cs.drop width)

/-- Reads a character between quotes, and gives what follows it. -/
def readChar : List Char → Option (Char × List Char)
  | '\\' :: 't' :: cs => some ('\t', cs)
  | '\\' :: 'n' :: cs => some ('\n', cs)
  | '\\' :: 'r' :: cs => some ('\r', cs)
  | '\\' :: 'x' :: cs => some (readCode 2 cs)
  | '\\' :: 'u' :: cs => some (readCode 4 cs)
  | '\\' :: 'U' :: cs => some (readCode 8 cs)
  | '\\' :: c :: cs => some (c, cs)
  | c :: cs => some (c, cs)
  | [] => none

theorem readCode_hexDigits {width : Nat} {c : Char} (h : c.toNat < Nat.pow 16 width) (cs : List Char) :
    readCode width (hexDigits width c.toNat ++ cs) = (c, cs) := by
  have hlen := length_hexDigits width c.toNat
  rw [readCode, List.take_left' hlen, List.drop_left' hlen, hexNumber_hexDigits,
    Nat.mod_eq_of_lt h, Char.ofNat_toNat]

/-- Whether a character is a quote. -/
def IsQuote (q : Char) : Prop := q = '\'' ∨ q = '"'

theorem isQuote_quoteFor (cs : List Char) : IsQuote (quoteFor cs) := by
  rw [quoteFor]
  split
  · exact .inr rfl
  · exact .inl rfl

theorem readChar_quotedChar {q : Char} (hq : IsQuote q) (c : Char) (cs : List Char) :
    readChar (quotedChar q c ++ cs) = some (c, cs) := by
  have hlt : c.toNat < Nat.pow 16 8 := c.val.toNat_lt
  -- The cases are those of writing, in their order.
  unfold quotedChar
  by_cases hself : c = q ∨ c = '\\'
  · rw [if_pos hself]
    have : c = '\'' ∨ c = '"' ∨ c = '\\' := by
      rcases hself with rfl | rfl
      · exact hq.elim .inl fun h => .inr (.inl h)
      · exact .inr (.inr rfl)
    rcases this with rfl | rfl | rfl <;> rfl
  rw [if_neg hself]
  by_cases htab : c = '\t'
  · rw [if_pos htab, htab]
    rfl
  rw [if_neg htab]
  by_cases hline : c = '\n'
  · rw [if_pos hline, hline]
    rfl
  rw [if_neg hline]
  by_cases hreturn : c = '\r'
  · rw [if_pos hreturn, hreturn]
    rfl
  rw [if_neg hreturn]
  by_cases hprint : isPrintable c
  · rw [if_pos hprint]
    rw [not_or] at hself
    rw [List.singleton_append, readChar]
    all_goals simp_all
  rw [if_neg hprint]
  by_cases h2 : c.toNat < 0x100
  · rw [if_pos h2]
    exact congrArg some (readCode_hexDigits (show c.toNat < Nat.pow 16 2 from h2) cs)
  rw [if_neg h2]
  by_cases h4 : c.toNat < 0x10000
  · rw [if_pos h4]
    exact congrArg some (readCode_hexDigits (show c.toNat < Nat.pow 16 4 from h4) cs)
  rw [if_neg h4]
  exact congrArg some (readCode_hexDigits hlt cs)

/-- Different characters are not written alike, whatever follows them. -/
theorem quotedChar_append_inj {q : Char} (hq : IsQuote q) {c d : Char} {xs ys : List Char}
    (h : quotedChar q c ++ xs = quotedChar q d ++ ys) : c = d ∧ xs = ys := by
  have hc := readChar_quotedChar hq c xs
  rw [h, readChar_quotedChar hq] at hc
  exact Prod.mk.inj (Option.some.inj hc).symm

theorem quotedChar_append_ne {q : Char} (hq : IsQuote q) (c : Char) (xs ys : List Char) :
    quotedChar q c ++ xs ≠ q :: ys := by
  have hslash : '\\' ≠ q := by
    rcases hq with rfl | rfl <;> decide
  unfold quotedChar
  repeat' split
  all_goals simp_all

/-! ## Texts -/

theorem flatMap_quotedChar_inj {q : Char} (hq : IsQuote q) {as bs xs ys : List Char}
    (h : as.flatMap (quotedChar q) ++ q :: xs = bs.flatMap (quotedChar q) ++ q :: ys) :
    as = bs ∧ xs = ys := by
  induction as generalizing bs with
  | nil =>
    cases bs with
    | nil => exact ⟨rfl, List.tail_eq_of_cons_eq h⟩
    | cons b bs =>
      rw [List.flatMap_cons, List.append_assoc] at h
      exact absurd h.symm (quotedChar_append_ne hq b _ _)
  | cons a as ih =>
    rw [List.flatMap_cons, List.append_assoc] at h
    cases bs with
    | nil => exact absurd h (quotedChar_append_ne hq a _ _)
    | cons b bs =>
      rw [List.flatMap_cons, List.append_assoc] at h
      obtain ⟨hab, hrest⟩ := quotedChar_append_inj hq h
      obtain ⟨habs, hxy⟩ := ih hrest
      exact ⟨by rw [hab, habs], hxy⟩

/-- **Quoted texts with something behind them are only equal if the texts are and what is behind
them.** -/
theorem quotedChars_append_inj {as bs xs ys : List Char}
    (h : quotedChars as ++ xs = quotedChars bs ++ ys) : as = bs ∧ xs = ys := by
  rw [quotedChars, quotedChars, List.cons_append, List.cons_append, List.append_assoc,
    List.append_assoc, List.cons_append, List.cons_append] at h
  obtain ⟨hq, h⟩ := List.cons.inj h
  rw [← hq] at h
  exact flatMap_quotedChar_inj (isQuote_quoteFor as) h

end Introspection.Text
