import Introspection.Proofs.Model.First
import Introspection.Proofs.Registry.History

/-!
# How models change registries

Building a model changes the registry by registering entities, and records once more among the
records. So the registry of a model has come about by registration alone.

* `Registry.IsReached`: registries as they come about by changes;
* **`Intake.grows_take`**, `Intake.grows_takeAll`: one candidate, and all of them;
* **`Model.grows_of_ofDocument`**, `Model.isReached_of_ofDocument`: the registry of a model.
-/

namespace Introspection

/-- A registry has come about by changes from the beginning. -/
def Registry.IsReached (r : Registry) : Prop := ∃ changes, r = after changes

namespace Registry.IsReached

variable {r : Registry}

theorem empty : Registry.empty.IsReached := ⟨[], rfl⟩

theorem of_grows {r' : Registry} (h : r.IsReached) (hg : r.Grows r') : r'.IsReached := by
  obtain ⟨changes, rfl⟩ := h
  obtain ⟨more, -, rfl⟩ := hg
  exact ⟨changes ++ more, List.foldl_append.symm⟩

theorem wellKeyed (h : r.IsReached) : r.WellKeyed := by
  obtain ⟨changes, rfl⟩ := h
  exact wellKeyed_after changes

end Registry.IsReached

/-- **Taking in a candidate changes the registry by registration.** -/
theorem Intake.grows_take (config : Config) (s : Intake) (c : Candidate) :
    s.registry.Grows (s.take config c).registry := by
  by_cases hb : c.name ∈ config.blacklist
  · rw [take_of_blacklisted hb]
    exact .refl _
  by_cases hn : c.name ∈ s.registry.names
  · rw [take_of_taken hb hn]
    exact .refl _
  · have hn' : c.entity.value.name ∉ s.registry.names := c.name_entity.symm ▸ hn
    have hnew : s.registry.Grows (s.registry.change (.register c.entity.value)) :=
      (Registry.Grows.refl _).change (by simp)
    rw [Registry.change, Registry.insert?_of_not_mem hn', Option.getD_some] at hnew
    rw [take_of_new hb hn, keep]
    dsimp only
    split
    · exact hnew.change (x := .registerRecord c.entity.value) (by simp)
    · exact hnew

theorem Intake.grows_takeAll (config : Config) (s : Intake) (cs : List Candidate) :
    s.registry.Grows (s.takeAll config cs).registry := by
  induction cs generalizing s with
  | nil => exact .refl _
  | cons c cs ih => exact (grows_take config s c).trans (ih _)

/-- **Building a model changes the registry by registration.** -/
theorem Model.grows_of_ofDocument {config : Config} {r : Registry} {d : Document} {b : Built}
    (h : (ofDocument config r d).result = .ok b) : r.Grows b.registry := by
  obtain ⟨header?, cs, hh, hc⟩ := exists_of_ofDocument h
  rw [ofDocument_eq hh hc] at h
  rw [← Except.ok.inj h]
  exact Intake.grows_takeAll config ⟨r, [], [], [], config.defaultErrorType⟩ cs

theorem Model.isReached_of_ofDocument {config : Config} {r : Registry} (hr : r.IsReached)
    {d : Document} {b : Built} (h : (ofDocument config r d).result = .ok b) :
    b.registry.IsReached :=
  hr.of_grows (grows_of_ofDocument h)

end Introspection
