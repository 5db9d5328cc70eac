import Introspection.Text.Piece

/-!
# Pieces between single characters

* `takeWhile_append_stop`, `dropWhile_append_stop`, `dropWhile_append_cons`: a text up to a
  character of another kind, and from there on;
* `splitAtFirst?_append`, `splitAtFirst?_eq_none_iff`: a text cut at a character;
* `splitOn_singleton`: a delimiter of one character splits as the library does;
* `exists_mem_splitOn_iff`: the characters of the pieces.
-/

namespace Introspection.Text

section Stop

variable {p : Char → Bool} {xs ys : List Char} {y : Char}

theorem takeWhile_append_stop (hx : ∀ x ∈ xs, p x) (hy : p y = false) :
    (xs ++ y :: ys).takeWhile p = xs := by
  rw [List.takeWhile_append_of_pos hx, List.takeWhile_cons_of_neg (by simp [hy]), List.append_nil]

theorem dropWhile_append_stop (hx : ∀ x ∈ xs, p x) (hy : p y = false) :
    (xs ++ y :: ys).dropWhile p = y :: ys := by
  rw [List.dropWhile_append_of_pos hx, List.dropWhile_cons_of_neg (by simp [hy])]

theorem dropWhile_append_cons (hy : p y = false) (xs ys : List Char) :
    (xs ++ y :: ys).dropWhile p = xs.dropWhile p ++ y :: ys := by
  rw [List.dropWhile_append]
  split
  · rename_i h
    rw [List.isEmpty_iff.mp h, List.dropWhile_cons_of_neg (by simp [hy]), List.nil_append]
  · rfl

end Stop

section SplitAtFirst

variable {c : Char} {as bs : List Char}

theorem splitAtFirst?_append (h : c ∉ as) : splitAtFirst? c (as ++ c :: bs) = some (as, bs) := by
  induction as with
  | nil => simp [splitAtFirst?]
  | cons a as ih =>
    rw [List.mem_cons, not_or] at h
    rw [List.cons_append, splitAtFirst?, if_neg (Ne.symm h.1), ih h.2, Option.map_some]

theorem splitAtFirst?_eq_none_iff : splitAtFirst? c as = none ↔ c ∉ as := by
  induction as with
  | nil => simp [splitAtFirst?]
  | cons a as ih =>
    by_cases h : a = c
    · simp [splitAtFirst?, h]
    · simp [splitAtFirst?, h, ih, Ne.symm h]

end SplitAtFirst

theorem splitFrom_singleton (d : Char) (piece cs : List Char) :
    splitFrom [d] 0 piece cs = cs.splitOnPPrepend (· == d) piece := by
  induction cs generalizing piece with
  | nil => rw [splitFrom, List.splitOnPPrepend_nil]
  | cons c cs ih =>
    rw [splitFrom, List.splitOnPPrepend_cons_eq_if]
    by_cases h : d = c
    · rw [if_pos (by simp [h]), if_pos (by simp [h]), ← List.splitOnPPrepend_nil_right, ← ih]
      rfl
    · rw [if_neg (by simp [h]), if_neg (by simp [Ne.symm h]), ih]

theorem splitOn_singleton (d : Char) (cs : List Char) : splitOn [d] cs = cs.splitOn d :=
  splitFrom_singleton d [] cs

theorem exists_mem_splitOn_iff {c d : Char} {cs : List Char} :
    (∃ piece ∈ cs.splitOn d, c ∈ piece) ↔ c ∈ cs ∧ c ≠ d := by
  have hcons : ∀ (p : List Char) (ps : List (List Char)),
      (∃ q ∈ p :: ps, c ∈ q) ↔ c ∈ p ∨ ∃ q ∈ ps, c ∈ q := by
    intro p ps
    simp
  induction cs with
  | nil => simp
  | cons x cs ih =>
    rw [List.splitOn_cons_eq_if_modifyHead, List.mem_cons]
    by_cases hx : x = d
    · rw [if_pos (by simp [hx]), hcons]
      constructor
      · rintro (h | h)
        · cases h
        · exact ⟨.inr (ih.mp h).1, (ih.mp h).2⟩
      · rintro ⟨rfl | h, hd⟩
        · exact absurd hx hd
        · exact .inr (ih.mpr ⟨h, hd⟩)
    · rw [if_neg (by simp [hx])]
      cases hs : cs.splitOn d with
      | nil => exact absurd hs (List.splitOn_ne_nil d cs)
      | cons p ps =>
        rw [hs, hcons] at ih
        rw [List.modifyHead_cons, hcons, List.mem_cons, or_assoc]
        constructor
        · rintro (rfl | h)
          · exact ⟨.inl rfl, hx⟩
          · exact ⟨.inr (ih.mp h).1, (ih.mp h).2⟩
        · rintro ⟨rfl | h, hd⟩
          · exact .inl rfl
          · exact .inr (ih.mpr ⟨h, hd⟩)

theorem not_mem_of_mem_splitOn {d : Char} {piece cs : List Char} (h : piece ∈ cs.splitOn d) :
    d ∉ piece :=
  fun hd => (exists_mem_splitOn_iff.mp ⟨piece, h, hd⟩).2 rfl

end Introspection.Text
