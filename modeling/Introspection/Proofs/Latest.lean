import Mathlib.Data.List.Induction

/-!
# The latest of several

What holds because of one thing that happened holds as long as nothing that comes after undoes it.

* **`exists_latest_concat_iff`**: what one more thing does to that.
-/

namespace Introspection

/-- The latest of several is the last one, or it is one before that which the last one leaves. The
property may depend on what came before. -/
theorem exists_latest_concat_iff {α : Type} {holds : List α → α → Prop} {leaves : α → Prop}
    {xs : List α} {x : α} :
    (∃ before y after, xs ++ [x] = before ++ y :: after ∧ holds before y ∧
        ∀ z ∈ after, leaves z) ↔
      holds xs x ∨
        (∃ before y after, xs = before ++ y :: after ∧ holds before y ∧ ∀ z ∈ after, leaves z) ∧
          leaves x := by
  constructor
  · rintro ⟨before, y, after, heq, hy, hafter⟩
    rcases List.eq_nil_or_concat after with rfl | ⟨after, z, rfl⟩
    · obtain ⟨rfl, hxy⟩ := List.append_inj' heq rfl
      exact .inl (List.singleton_inj.mp hxy ▸ hy)
    · rw [List.concat_eq_append] at heq hafter
      rw [← List.cons_append, ← List.append_assoc] at heq
      obtain ⟨rfl, hxz⟩ := List.append_inj' heq rfl
      refine .inr ⟨⟨before, y, after, rfl, hy, fun a ha => ?_⟩, ?_⟩
      · exact hafter a (List.mem_append_left _ ha)
      · rw [List.singleton_inj.mp hxz]
        exact hafter z (by simp)
  · rintro (hx | ⟨⟨before, y, after, rfl, hy, hafter⟩, hx⟩)
    · exact ⟨xs, x, [], rfl, hx, nofun⟩
    · refine ⟨before, y, after ++ [x], by simp, hy, fun a ha => ?_⟩
      rcases List.mem_append.mp ha with ha | ha
      · exact hafter a ha
      · rwa [List.mem_singleton.mp ha]

end Introspection
