import Introspection.Proofs.Text.Piece

/-!
# Pieces between delimiters

A delimiter may have several characters and overlap with itself. A text is cut at the occurrence
that begins first, and again behind it, until there is none.

* `Delimited`: the pieces of a text between the occurrences of a delimiter;
* `exists_first_occurrence`: the occurrence that begins first;
* **`splitOn_eq_iff`**: there is one way to cut a text, which is the one that is taken.
-/

namespace Introspection.Text

variable {delimiter : List Char}

/-- The pieces of a text between the occurrences of a delimiter. An occurrence does not begin in the
piece before it. -/
inductive Delimited (delimiter : List Char) : List Char → List (List Char) → Prop
  | last {text : List Char} : ¬delimiter <:+: text → Delimited delimiter text [text]
  | cut {piece rest : List Char} {pieces : List (List Char)} :
    ¬delimiter <:+: piece ++ delimiter.dropLast → Delimited delimiter rest pieces →
      Delimited delimiter (piece ++ (delimiter ++ rest)) (piece :: pieces)

/-! ## The occurrence that begins first -/

theorem not_infix_dropLast (h : delimiter ≠ []) : ¬delimiter <:+: delimiter.dropLast := by
  intro hin
  have hle := hin.length_le
  have hpos := List.length_pos_iff.mpr h
  rw [List.length_dropLast] at hle
  omega

/-- Whether an occurrence begins in front of another one shows before the other one is complete. -/
theorem prefix_cons_append_iff (c : Char) (piece rest : List Char) :
    delimiter <+: c :: (piece ++ (delimiter ++ rest)) ↔
      delimiter <+: c :: (piece ++ delimiter.dropLast) := by
  have hshort : c :: (piece ++ delimiter.dropLast) <+: c :: (piece ++ (delimiter ++ rest)) := by
    rw [List.prefix_cons_inj, List.prefix_append_right_inj]
    exact (List.dropLast_prefix delimiter).trans (List.prefix_append _ _)
  refine ⟨fun h => List.prefix_of_prefix_length_le h hshort ?_, fun h => h.trans hshort⟩
  simp only [List.length_cons, List.length_append, List.length_dropLast]
  omega

theorem exists_first_occurrence (h : delimiter ≠ []) {text : List Char}
    (hin : delimiter <:+: text) :
    ∃ piece rest, text = piece ++ (delimiter ++ rest) ∧
      ¬delimiter <:+: piece ++ delimiter.dropLast := by
  induction text with
  | nil => exact absurd (List.infix_nil.mp hin) h
  | cons c text ih =>
    by_cases hhere : delimiter <+: c :: text
    · obtain ⟨rest, hrest⟩ := hhere
      exact ⟨[], rest, hrest.symm, not_infix_dropLast h⟩
    · have hlater := (List.infix_cons_iff.mp hin).resolve_left hhere
      obtain ⟨piece, rest, rfl, hpiece⟩ := ih hlater
      refine ⟨c :: piece, rest, rfl, ?_⟩
      rw [List.cons_append, List.infix_cons_iff, not_or]
      exact ⟨fun hc => hhere ((prefix_cons_append_iff c piece rest).mpr hc), hpiece⟩

theorem exists_delimited (h : delimiter ≠ []) (text : List Char) :
    ∃ pieces, Delimited delimiter text pieces := by
  by_cases hin : delimiter <:+: text
  · obtain ⟨piece, rest, htext, hpiece⟩ := exists_first_occurrence h hin
    have hshorter : rest.length < text.length := by
      have hpos := List.length_pos_iff.mpr h
      simp only [htext, List.length_append]
      omega
    obtain ⟨pieces, hpieces⟩ := exists_delimited h rest
    exact ⟨piece :: pieces, htext ▸ .cut hpiece hpieces⟩
  · exact ⟨[text], .last hin⟩
termination_by text.length

/-! ## The way that is taken -/

theorem splitFrom_append (passed rest piece : List Char) :
    splitFrom delimiter passed.length piece (passed ++ rest) = splitFrom delimiter 0 piece rest := by
  induction passed with
  | nil => rfl
  | cons c passed ih =>
    rw [List.length_cons, List.cons_append, splitFrom]
    exact ih

theorem splitFrom_of_not_infix {text : List Char} (h : ¬delimiter <:+: text) (begun : List Char) :
    splitFrom delimiter 0 begun text = [begun.reverse ++ text] := by
  induction text generalizing begun with
  | nil => rw [splitFrom, List.append_nil]
  | cons c text ih =>
    rw [List.infix_cons_iff, not_or] at h
    rw [splitFrom, if_neg (by rw [List.isPrefixOf_iff_prefix]; exact h.1), ih h.2]
    simp

theorem splitFrom_of_first (h : delimiter ≠ []) {piece : List Char}
    (hpiece : ¬delimiter <:+: piece ++ delimiter.dropLast) (rest begun : List Char) :
    splitFrom delimiter 0 begun (piece ++ (delimiter ++ rest)) =
      (begun.reverse ++ piece) :: splitFrom delimiter 0 [] rest := by
  induction piece generalizing begun with
  | nil =>
    obtain ⟨d, ds, rfl⟩ := List.exists_cons_of_ne_nil h
    rw [List.nil_append, List.cons_append, splitFrom,
      if_pos (by rw [List.isPrefixOf_iff_prefix]; exact List.prefix_append (d :: ds) rest),
      List.append_nil]
    exact congrArg _ (splitFrom_append ds rest [])
  | cons c piece ih =>
    rw [List.cons_append, List.infix_cons_iff, not_or] at hpiece
    rw [List.cons_append, splitFrom,
      if_neg (by rw [List.isPrefixOf_iff_prefix, prefix_cons_append_iff]; exact hpiece.1),
      ih hpiece.2]
    simp

/-- **There is one way to cut a text.** -/
theorem splitOn_eq_iff (h : delimiter ≠ []) {text : List Char} {pieces : List (List Char)} :
    splitOn delimiter text = pieces ↔ Delimited delimiter text pieces := by
  have hsplit : ∀ {text pieces}, Delimited delimiter text pieces →
      splitOn delimiter text = pieces := by
    intro text pieces hpieces
    induction hpieces with
    | last hin => exact splitFrom_of_not_infix hin []
    | @cut piece rest pieces hpiece _ ih =>
      rw [splitOn] at ih ⊢
      rw [splitFrom_of_first h hpiece, ih]
      rfl
  refine ⟨?_, hsplit⟩
  rintro rfl
  obtain ⟨pieces, hpieces⟩ := exists_delimited h text
  rwa [hsplit hpieces]

end Introspection.Text
