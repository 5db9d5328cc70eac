import Introspection.Proofs.Model.History
import Introspection.Proofs.Registry.Ancestry
import Introspection.Proofs.Service.Run
import Introspection.Service.Server

/-!
# The ancestors that a server tells

A server tells the names of the known ancestors of a class, and whether there are no more of them.

* `Repository.namesParent_eq_false_iff`: the entities that need no further ancestor;
* `Repository.TellsLineage`, **`Repository.exists_lineage`**: what is told of a class;
* **`World.ancestors_tell`**: ancestors in registries at all times, and in the answers of all
  repositories of a run.
-/

namespace Introspection

open Service

namespace Repository

theorem namesParent_eq_false_iff {e : Entity} : namesParent e = false ↔ Registry.IsRoot e := by
  rw [Registry.IsRoot]
  cases e with
  | objectClass c =>
    rw [namesParent, bne_eq_false_iff_eq]
    exact ⟨fun h c' hc => Entity.objectClass.inj hc ▸ h, fun h => h c rfl⟩
  | _ => exact iff_of_true rfl nofun

/-- What a lineage tells of a class: the names of the ancestors, and whether going from parent to
parent comes to an end at an entity that names none. That is not so if a name is met again on the
way, or if the way leads to a class that names a parent which is not known. -/
structure TellsLineage (r : Registry) (c : ObjectClass) (l : Lineage) : Prop where
  ancestors_eq : l.ancestors = (r.ancestry c).map Entity.name
  complete_iff : l.complete ↔ r.IsRooted (.objectClass c)
  of_cycle : ∀ ps, r.Leads (.objectClass c) ps → ¬(c.name :: ps.map Entity.name).Nodup →
    l.complete = false
  of_unknown : ∀ ps d, r.Leads (.objectClass c) ps →
    ps.getLastD (.objectClass c) = .objectClass d → d.parent ≠ "" → r.parent? d = none →
    l.complete = false

/-- **Of every class of the model, the lineage is told.** -/
theorem exists_lineage {r : Repository} (h : r.registry.WellKeyed) {name : String} {c : ObjectClass}
    (hc : r.model.find? name = some (.objectClass c)) :
    ∃ l, r.lineage name = .ok l ∧ TellsLineage r.registry c l := by
  have hcomplete : (!namesParent ((r.registry.ancestry c).getLastD (.objectClass c))) = true ↔
      r.registry.IsRooted (.objectClass c) := by
    rw [Bool.not_eq_true', namesParent_eq_false_iff, Registry.isRooted_iff h]
  refine ⟨⟨c.name, c.parent, (r.registry.ancestry c).map Entity.name,
    !namesParent ((r.registry.ancestry c).getLastD (.objectClass c))⟩, ?_, rfl, hcomplete, ?_, ?_⟩
  · rw [lineage, hc]
  · intro ps hl hps
    rw [Bool.eq_false_iff, ne_eq, hcomplete]
    exact Registry.not_isRooted_of_not_nodup hl hps
  · intro ps d hl hlast hd hp
    rw [Bool.eq_false_iff, ne_eq, hcomplete]
    exact Registry.not_isRooted_of_unknown hl hlast hd hp

theorem exists_of_lineage {r : Repository} {name : String} {l : Lineage}
    (h : r.lineage name = .ok l) : ∃ c, r.model.find? name = some (.objectClass c) := by
  rw [lineage] at h
  split at h
  · rename_i c hc
    exact ⟨c, hc⟩
  · cases h

end Repository

namespace World

variable {β : Type}

/-- **Ancestors are the longest chain of parents without repetition.** This holds of every class
with a registry at any time. In any run that began with nothing in the cache, the server answers for
every class of a model with the names of its ancestors, and says that they are complete just if they
end at an entity that names no parent. -/
theorem ancestors_tell {w₀ : World β} (hempty : w₀.cache.entries = []) (events : List Event) :
    (∀ changes c, (Registry.after changes).IsAncestry c ((Registry.after changes).ancestry c)) ∧
      ∀ s ∈ w₀.served events, ∀ name c, s.repository.model.find? name = some (.objectClass c) →
        ∃ l, s.repository.lineage name = .ok l ∧
          (∀ fs q, Server.answer fs s.repository q (.lineage name) =
            .ok { content := .json l.json }) ∧
          Repository.TellsLineage s.repository.registry c l := by
  refine ⟨fun changes c => Registry.ancestry_maximal (Registry.wellKeyed_after changes) c, ?_⟩
  intro s hs name c hc
  obtain ⟨config, path, digest, b, hrepo, builtConfig, d, hb⟩ := isNew_of_mem_served hempty hs
  have hkeyed : s.repository.registry.WellKeyed := by
    rw [hrepo]
    exact (Model.isReached_of_ofDocument .empty hb).wellKeyed
  obtain ⟨l, hl, htells⟩ := Repository.exists_lineage hkeyed hc
  refine ⟨l, hl, fun fs q => ?_, htells⟩
  rw [Server.answer, hl]
  rfl

/-- A class that is its own parent, one whose parent is named with a namespace, and that parent. -/
def kinText : String :=
  "<r><n><class name=\"A\" parent=\"A\"/>" ++
    "<class name=\"B\" parent=\"N.C\"/><class name=\"C\"/></n></r>"

/-- A repository serves the classes. -/
def kin : List Event := [.write "a" ⟨kinText.toUTF8.toList, 1⟩ 1, .construct (some "a") {}]

/-- The parents of the second class come to an end, those of the first one do not. -/
theorem ancestors_tell_of_kin :
    ∃ s a b, fresh.served kin = [s] ∧
      s.repository.model.find? "A" = some (.objectClass a) ∧
      ¬s.repository.registry.IsRooted (.objectClass a) ∧
      s.repository.model.find? "B" = some (.objectClass b) ∧
      s.repository.registry.IsRooted (.objectClass b) ∧
      (s.repository.registry.ancestry b).map Entity.name = ["C"] := by
  -- Only what is told is computed. That the classes are rooted or not follows from it.
  have hserved : (fresh.served kin).map (fun s => ["A", "B"].map fun n =>
      (s.repository.lineage n).toOption.map fun l => (l.complete, l.ancestors)) =
      [[some (false, []), some (true, ["C"])]] := by
    decide +kernel
  obtain ⟨s, _, hs, hlineages, hnil⟩ := List.map_eq_cons_iff.mp hserved
  obtain rfl := List.map_eq_nil_iff.mp hnil
  obtain ⟨hA, hlineages⟩ := List.cons.inj hlineages
  have hB := List.head_eq_of_cons_eq hlineages
  have hempty : fresh.cache.entries = [] := rfl
  have htold : ∀ n x, ((s.repository.lineage n).toOption.map fun l => (l.complete, l.ancestors)) =
      some x → ∃ c, s.repository.model.find? n = some (.objectClass c) ∧
        (x.1 ↔ s.repository.registry.IsRooted (.objectClass c)) ∧
        (s.repository.registry.ancestry c).map Entity.name = x.2 := by
    intro n x hx
    obtain ⟨l, hl, rfl⟩ := Option.map_eq_some_iff.mp hx
    have hl := eq_ok_of_toOption hl
    obtain ⟨c, hc⟩ := Repository.exists_of_lineage hl
    obtain ⟨l', hl', -, htells⟩ :=
      (ancestors_tell hempty kin).2 s (hs ▸ List.mem_cons_self) n c hc
    obtain rfl := Except.ok.inj (hl.symm.trans hl')
    exact ⟨c, hc, htells.complete_iff, htells.ancestors_eq.symm⟩
  obtain ⟨a, ha, harooted, -⟩ := htold "A" _ hA
  obtain ⟨b, hb, hbrooted, hnames⟩ := htold "B" _ hB
  have hcycle : ¬s.repository.registry.IsRooted (.objectClass a) := by
    intro h
    cases harooted.mpr h
  exact ⟨s, a, b, hs, ha, hcycle, hb, hbrooted.mp rfl, hnames⟩

end World

end Introspection
