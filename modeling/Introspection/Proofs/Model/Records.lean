import Introspection.Proofs.Model.History
import Introspection.Proofs.Model.Merge

/-!
# Records in step with types

A registry enters records and classes twice, among all types and among the records. When models are
built on it, the records stay those of the types that are records or classes.

* `Registry.InStep`: records that are those among the types;
* `Registry.InStep.register`, `Intake.inStep_take`: one more type, and one candidate;
* `Registry.Series`: models that are built one after the other on one registry;
* `Registry.Series.ofFiles`: models that are built as a set;
* **`Registry.Series.records_in_step`**: the two kinds of look-up after a series of models.
-/

namespace Introspection

theorem Entity.isRecordKind_iff {e : Entity} :
    e.isRecordKind ↔ e.kind? = some .record ∨ e.kind? = some .objectClass := by
  cases e <;> simp [isRecordKind, kind?]

/-! ## Two lists of entries -/

theorem lookup_map_name (es : List Entity) (n : String) :
    (es.map fun e => (e.name, e)).lookup n = es.find? (·.name == n) := by
  induction es with
  | nil => rfl
  | cons e es ih => rw [List.map_cons, List.lookup_cons, List.find?_cons, ih, BEq.comm]

theorem lookup_eq_none_of_not_mem {entries : List (String × Entity)} {n : String}
    (h : n ∉ entries.map (·.1)) : entries.lookup n = none := by
  rw [List.lookup_eq_none_iff]
  intro x hx
  rw [bne_iff_ne]
  rintro rfl
  exact h (List.mem_map_of_mem hx)

/-- Where no name occurs twice, nothing is found in place of an entry that is left out. -/
theorem lookup_filter {entries : List (String × Entity)} (h : (entries.map (·.1)).Nodup)
    (p : Entity → Bool) (n : String) :
    (entries.filter (p ·.2)).lookup n = (entries.lookup n).filter p := by
  induction entries with
  | nil => rfl
  | cons x entries ih =>
    obtain ⟨m, e⟩ := x
    rw [List.map_cons, List.nodup_cons] at h
    have ih := ih h.2
    rw [List.filter_cons, List.lookup_cons]
    by_cases hn : n = m
    · subst hn
      rw [beq_self_eq_true]
      by_cases hp : p e
      · rw [if_pos hp, List.lookup_cons, beq_self_eq_true]
        exact (Option.filter_eq_some_iff.mpr ⟨rfl, hp⟩).symm
      · rw [if_neg hp, ih, lookup_eq_none_of_not_mem h.1]
        exact (Option.filter_some_neg (Bool.eq_false_iff.mpr hp)).symm
    · rw [beq_eq_false_iff_ne.mpr hn]
      by_cases hp : p e
      · rw [if_pos hp, List.lookup_cons, beq_eq_false_iff_ne.mpr hn]
        exact ih
      · rw [if_neg hp]
        exact ih

namespace Registry

/-- The records are those of the types that are records or classes. -/
def InStep (r : Registry) : Prop := r.records = r.types.filter (·.2.isRecordKind)

theorem inStep_empty : Registry.empty.InStep := rfl

/-- **One more type**, among the records too if it is a record or class. -/
theorem InStep.register {r : Registry} (h : r.InStep) {e : Entity} (hn : e.name ∉ r.names) :
    ({ r with types := r.types ++ [(e.name, e)] }.recordAlso e).InStep := by
  have hfree : r.records.lookup e.name = none := by
    refine lookup_eq_none_of_not_mem fun he => hn ?_
    rw [h] at he
    exact List.map_subset _ List.filter_sublist.subset he
  rw [recordAlso]
  by_cases he : e.isRecordKind
  · rw [if_pos he, insertRecord?, insertNew?, hfree]
    change r.records ++ [(e.name, e)] = (r.types ++ [(e.name, e)]).filter _
    have hone : [(e.name, e)].filter (·.2.isRecordKind) = [(e.name, e)] :=
      List.filter_cons_of_pos he
    rw [h, List.filter_append, hone]
  · rw [if_neg he]
    change r.records = (r.types ++ [(e.name, e)]).filter _
    have hnone : [(e.name, e)].filter (·.2.isRecordKind) = [] := List.filter_cons_of_neg he
    rw [h, List.filter_append, hnone, List.append_nil]

end Registry

/-! ## Building -/

namespace Intake

variable {config : Config} {s : Intake}

/-- **One candidate** leaves the records in step, whatever becomes of it. -/
theorem inStep_take (h : s.registry.InStep) (c : Candidate) :
    (s.take config c).registry.InStep := by
  by_cases hb : c.name ∈ config.blacklist
  · rw [take_of_blacklisted hb]
    exact h
  by_cases hn : c.name ∈ s.registry.names
  · rw [take_of_taken hb hn]
    exact h
  · rw [take_of_new hb hn]
    exact h.register (c.name_entity.symm ▸ hn)

theorem inStep_takeAll (h : s.registry.InStep) (cs : List Candidate) :
    (s.takeAll config cs).registry.InStep := by
  induction cs generalizing s with
  | nil => exact h
  | cons c cs ih => exact ih (inStep_take h c)

end Intake

namespace Model

variable {config : Config} {r : Registry} {d : Document} {b : Built}

theorem inStep_of_ofDocument (hr : r.InStep) (h : (ofDocument config r d).result = .ok b) :
    b.registry.InStep := by
  obtain ⟨header?, cs, hh, hc⟩ := exists_of_ofDocument h
  rw [ofDocument_eq hh hc] at h
  rw [← Except.ok.inj h]
  exact Intake.inStep_takeAll hr cs

theorem types_of_ofDocument (h : (ofDocument config r d).result = .ok b) :
    b.registry.types = r.types ++ b.model.types.map fun e => (e.name, e) := by
  obtain ⟨header?, cs, hh, hc⟩ := exists_of_ofDocument h
  rw [ofDocument_eq hh hc] at h
  rw [← Except.ok.inj h]
  exact (Intake.follows_ofCandidates config r cs).types

end Model

/-! ## Series of models -/

namespace Registry

/-- Models that are built one after the other on one registry, with nothing in it at first. Each may
have its own configuration. -/
inductive Series : List Model → Registry → Prop where
  | start : Series [] .empty
  | build {ms : List Model} {r : Registry} {config : Config} {d : Document} {b : Built} :
    Series ms r → (Model.ofDocument config r d).result = .ok b →
      Series (ms ++ [b.model]) b.registry

namespace Series

variable {ms : List Model} {r : Registry}

theorem isReached (h : Series ms r) : r.IsReached := by
  induction h with
  | start => exact .empty
  | build _ hb ih => exact Model.isReached_of_ofDocument ih hb

theorem inStep (h : Series ms r) : r.InStep := by
  induction h with
  | start => exact inStep_empty
  | build _ hb ih => exact Model.inStep_of_ofDocument ih hb

theorem types_eq (h : Series ms r) :
    r.types = (ms.flatMap Model.types).map fun e => (e.name, e) := by
  induction h with
  | start => rfl
  | build _ hb ih =>
    rw [Model.types_of_ofDocument hb, ih, List.flatMap_append, List.map_append,
      List.flatMap_singleton]

theorem lookup_eq (h : Series ms r) (n : String) :
    r.lookup n = (ms.flatMap Model.types).find? (·.name == n) := by
  rw [lookup, h.types_eq, lookup_map_name]

theorem lookupRecord_eq (h : Series ms r) (n : String) :
    r.lookupRecord n = (r.lookup n).filter Entity.isRecordKind := by
  rw [lookupRecord, h.inStep, lookup_filter h.isReached.wellKeyed.types.nodup, lookup]

theorem exists_of_lookupRecord (h : Series ms r) {n : String} {e : Entity}
    (he : r.lookupRecord n = some e) : ∃ m ∈ ms, e ∈ m.types := by
  rw [h.lookupRecord_eq, Option.filter_eq_some_iff, h.lookup_eq] at he
  exact List.mem_flatMap.mp (List.mem_of_find?_eq_some he.1)

/-! ### Sets of models -/

theorem ofFile {config : Config} {fs : Files} {path : String} {b : Built} (h : Series ms r)
    (hb : (Model.ofFile config r fs path).result = .ok (some b)) :
    Series (ms ++ [b.model]) b.registry := by
  obtain ⟨d, -, hd⟩ := Model.exists_of_ofFile hb
  exact h.build hd

theorem add {config : Config} {fs : Files} {s : ModelSet} (h : Series (ms ++ s.models) s.registry)
    (path : String) :
    Series (ms ++ (s.add config fs path).models) (s.add config fs path).registry := by
  rw [ModelSet.add]
  split
  · exact h
  dsimp only
  split
  · exact h
  · exact h
  · rename_i b hb
    have := h.ofFile hb
    rwa [List.append_assoc] at this

/-- **The models of a set go on with a series.** -/
theorem ofFiles {config : Config} {fs : Files} (h : Series ms r) (paths : List String) :
    Series (ms ++ (ModelSet.ofFiles config r fs paths).models)
      (ModelSet.ofFiles config r fs paths).registry := by
  have hall : ∀ s : ModelSet, Series (ms ++ s.models) s.registry →
      Series (ms ++ (paths.foldl (ModelSet.add config fs) s).models)
        (paths.foldl (ModelSet.add config fs) s).registry := by
    induction paths with
    | nil => exact fun s hs => hs
    | cons path paths ih => exact fun s hs => ih _ (hs.add path)
  exact hall { registry := r } (by rwa [List.append_nil])

/-! ### Look-up -/

/-- **The records stay in step with the types.** After any series of models, under whatever
configurations, a name stands for an entity among the records just if it stands for that entity
among the types and the entity is a record or a class. So a name belongs to a record just if its
kind is one of the two, parents are entities that a model of the series keeps, and a single model
finds what its registry finds. -/
theorem records_in_step (h : Series ms r) :
    (∀ n e, r.lookupRecord n = some e ↔
      r.lookup n = some e ∧ (e.kind? = some .record ∨ e.kind? = some .objectClass)) ∧
    (∀ n, r.isRecord n ↔ r.kindOf? n = some .record ∨ r.kindOf? n = some .objectClass) ∧
    (∀ c p, r.parent? c = some p → ∃ m ∈ ms, p ∈ m.types) ∧
    (∀ m, ms = [m] → ∀ n, m.find? n = r.lookup n) := by
  have hrecord : ∀ n e, r.lookupRecord n = some e ↔
      r.lookup n = some e ∧ (e.kind? = some .record ∨ e.kind? = some .objectClass) := by
    intro n e
    rw [h.lookupRecord_eq, Option.filter_eq_some_iff, Entity.isRecordKind_iff]
  refine ⟨hrecord, fun n => ?_, fun c p hp => ?_, fun m hm n => ?_⟩
  · rw [isRecord, kindOf?, Option.isSome_iff_exists]
    simp only [hrecord]
    cases r.lookup n <;> simp
  · rw [parent?] at hp
    split at hp
    · cases hp
    · rcases Option.or_eq_some_iff.mp hp with hp | ⟨-, hp⟩
      · exact h.exists_of_lookupRecord hp
      · exact h.exists_of_lookupRecord hp
  · rw [h.lookup_eq, hm, List.flatMap_singleton]
    rfl

/-- A document that defines an alias and a class. -/
def paneText : String :=
  "<r><n><alias name=\"Pane\" type=\"int\"/><class name=\"Window\" parent=\"Pane\"/></n></r>"

/-- A document that defines a class by the name of the alias, and one below the other class. -/
def panelText : String :=
  "<r><n><class name=\"Pane\"/><class name=\"Panel\" parent=\"N.Window\"/></n></r>"

/-- The models of both documents. -/
def panes : ModelSet :=
  .ofFiles {} .empty ((({} : Files).write (Path.ofText "a") ⟨paneText.toUTF8.toList, 0⟩ 0).write
    (Path.ofText "b") ⟨panelText.toUTF8.toList, 0⟩ 0) ["a", "b"]

/-- The name of the alias is not taken for that of a record when a class has it later. -/
theorem records_in_step_of_panes :
    Series panes.models panes.registry ∧ panes.models.length = 2 ∧
      panes.registry.kindOf? "Pane" = some .typeAlias ∧ panes.registry.lookupRecord "Pane" = none ∧
      panes.registry.isRecord "Panel" ∧
      ∃ c p, panes.registry.lookup "Panel" = some (.objectClass c) ∧
        panes.registry.parent? c = some p ∧ ∃ m ∈ panes.models, p ∈ m.types := by
  have hseries : Series panes.models panes.registry := Series.start.ofFiles ["a", "b"]
  have hfacts : (panes.models.length, panes.registry.kindOf? "Pane", panes.registry.kindOf? "Panel",
      ((panes.registry.lookup "Panel").bind panes.registry.parentOf?).isSome) =
      (2, some .typeAlias, some .objectClass, true) := by
    decide +kernel
  -- What is computed is known by now, so the models are left alone from here on.
  obtain ⟨s, hs⟩ : ∃ s, s = panes := ⟨_, rfl⟩
  rw [← hs] at hseries hfacts ⊢
  simp only [Prod.mk.injEq] at hfacts
  obtain ⟨hlength, hpane, hpanel, hparent⟩ := hfacts
  obtain ⟨-, hisRecord, hkept, -⟩ := records_in_step hseries
  have hnone : s.registry.lookupRecord "Pane" = none := by
    rw [← Option.not_isSome_iff_eq_none]
    intro h
    rcases (hisRecord "Pane").mp h with h | h <;> rw [hpane] at h <;> cases h
  obtain ⟨p, hp⟩ := Option.isSome_iff_exists.mp hparent
  obtain ⟨e, he, hp⟩ := Option.bind_eq_some_iff.mp hp
  cases e with
  | objectClass c =>
    exact ⟨hseries, hlength, hpane, hnone, (hisRecord "Panel").mpr (.inr hpanel), c, p, he, hp,
      hkept c p hp⟩
  | _ => cases hp

end Series

end Registry

end Introspection
