import Introspection.Text.Integer

/-!
# Integers in front of other text

The decimal text of an integer can be told up to the first sign that is no digit.

* `Undigited`: text that no numeral goes on with;
* `repr_append_inj`: natural numbers with something behind them;
* **`decimal_append_inj`**: integers with something behind them.
-/

namespace Introspection.Text

/-- A text does not begin with a digit. -/
def Undigited (cs : List Char) : Prop := cs.head?.all (!·.isDigit)

theorem toList_repr (n : Nat) : n.repr.toList = Nat.toDigits 10 n := by
  rw [Nat.repr_eq_ofList_toDigits, String.toList_ofList]

theorem all_isDigit_repr (n : Nat) : ∀ c ∈ n.repr.toList, c.isDigit := by
  intro c hc
  rw [toList_repr] at hc
  exact Nat.isDigit_of_mem_toDigits (by decide) (by decide) hc

theorem exists_repr_eq_cons (n : Nat) : ∃ c cs, n.repr.toList = c :: cs ∧ c.isDigit := by
  cases h : n.repr.toList with
  | nil => exact absurd (String.toList_eq_nil_iff.mp h) Nat.repr_ne_empty
  | cons c cs => exact ⟨c, cs, rfl, all_isDigit_repr n c (h ▸ List.mem_cons_self)⟩

theorem takeWhile_isDigit_repr (n : Nat) {xs : List Char} (hx : Undigited xs) :
    (n.repr.toList ++ xs).takeWhile Char.isDigit = n.repr.toList := by
  rw [List.takeWhile_append_of_pos (all_isDigit_repr n)]
  cases xs with
  | nil => rw [List.takeWhile_nil, List.append_nil]
  | cons x xs =>
    have hx : (!x.isDigit) = true := hx
    rw [List.takeWhile_cons_of_neg (by simpa using hx), List.append_nil]

theorem repr_append_inj {m n : Nat} {xs ys : List Char} (hx : Undigited xs) (hy : Undigited ys)
    (h : m.repr.toList ++ xs = n.repr.toList ++ ys) : m = n ∧ xs = ys := by
  have hdigits := congrArg (List.takeWhile Char.isDigit) h
  rw [takeWhile_isDigit_repr m hx, takeWhile_isDigit_repr n hy] at hdigits
  have hnumber := congrArg (fun ds => Nat.ofDigitChars 10 ds 0) hdigits
  simp only [toList_repr, Nat.ofDigitChars_ten_toDigits] at hnumber
  rw [hdigits] at h
  exact ⟨hnumber, List.append_cancel_left h⟩

/-- **Integers with something behind them are told apart**, unless what is behind them goes on with
digits. -/
theorem decimal_append_inj {m n : Int} {xs ys : List Char} (hx : Undigited xs) (hy : Undigited ys)
    (h : (decimal m).toList ++ xs = (decimal n).toList ++ ys) : m = n ∧ xs = ys := by
  -- A minus sign is no digit, so the signs agree.
  have hsign : ∀ (k : Nat) (us vs : List Char), k.repr.toList ++ us ≠ '-' :: vs := by
    intro k us vs hk
    obtain ⟨c, cs, hcs, hc⟩ := exists_repr_eq_cons k
    rw [hcs, List.cons_append, List.cons.injEq] at hk
    rw [hk.1] at hc
    cases hc
  cases m with
  | ofNat m =>
    cases n with
    | ofNat n =>
      obtain ⟨rfl, hxy⟩ := repr_append_inj hx hy h
      exact ⟨rfl, hxy⟩
    | negSucc n =>
      rw [decimal, decimal, String.toList_append] at h
      exact absurd h (hsign m _ _)
  | negSucc m =>
    cases n with
    | ofNat n =>
      rw [decimal, decimal, String.toList_append] at h
      exact absurd h.symm (hsign n _ _)
    | negSucc n =>
      rw [decimal, decimal, String.toList_append, String.toList_append, List.append_assoc,
        List.append_assoc] at h
      obtain ⟨hmn, hxy⟩ := repr_append_inj hx hy (List.append_cancel_left h)
      exact ⟨congrArg Int.negSucc (Nat.succ.inj hmn), hxy⟩

end Introspection.Text
