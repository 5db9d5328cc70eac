import Introspection.Proofs.Registry

/-!
# Registries over time

A registry begins with nothing in it. Entities are registered, among the records too, and now and
then everything is forgotten.

* `Registry.Change`, `Registry.change`, `Registry.after`: what can happen to a registry;
* `Registry.Grows`: registries that come out of others without forgetting anything;
* `Keyed`: entries that stand under the names of their entities, each name once;
* `Registry.WellKeyed.change`, **`Registry.wellKeyed_after`**: such are the entries of registries at
  all times.
-/

namespace Introspection

/-! ## Entries -/

/-- Entries stand under the names of their entities, each name once. -/
structure Keyed (entries : List (String × Entity)) : Prop where
  name_eq : ∀ x ∈ entries, x.2.name = x.1
  nodup : (entries.map (·.1)).Nodup

namespace Keyed

variable {entries entries' : List (String × Entity)} {e : Entity}

theorem nil : Keyed [] := ⟨nofun, .nil⟩

theorem not_mem_of_lookup_eq_none {n : String} (h : entries.lookup n = none) :
    n ∉ entries.map (·.1) := by
  rw [List.lookup_eq_none_iff] at h
  intro hn
  obtain ⟨x, hx, rfl⟩ := List.mem_map.mp hn
  simpa using h x hx

theorem insertNew? (h : Keyed entries) (hi : insertNew? entries e = some entries') :
    Keyed entries' := by
  rw [Introspection.insertNew?] at hi
  cases hl : entries.lookup e.name with
  | some _ =>
    rw [hl] at hi
    cases hi
  | none =>
    rw [hl] at hi
    have hnew := not_mem_of_lookup_eq_none hl
    rw [← Option.some.inj hi]
    refine ⟨fun x hx => ?_, ?_⟩
    · rcases List.mem_append.mp hx with hx | hx
      · exact h.name_eq x hx
      · rw [List.mem_singleton.mp hx]
    · rw [List.map_append, List.nodup_append]
      refine ⟨h.nodup, by simp, fun a ha b hb hab => ?_⟩
      have hb : b = e.name := List.mem_singleton.mp hb
      exact hnew (hb ▸ hab ▸ ha)

theorem mem_of_lookup (h : Keyed entries) {n : String} (hl : entries.lookup n = some e) :
    (e.name, e) ∈ entries := by
  obtain ⟨l₁, l₂, hentries, -⟩ := List.lookup_eq_some_iff.mp hl
  have hmem : (n, e) ∈ entries := by
    rw [hentries]
    exact List.mem_append_right _ List.mem_cons_self
  rwa [h.name_eq _ hmem]

end Keyed

namespace Registry

/-! ## Changes -/

/-- What can happen to a registry. -/
inductive Change where
  | register (e : Entity)
  | registerRecord (e : Entity)
  | clear

/-- A registry after a change; an entity whose name is taken changes nothing. -/
def change (r : Registry) : Change → Registry
  | .register e => (r.insert? e).getD r
  | .registerRecord e => (r.insertRecord? e).getD r
  | .clear => .empty

/-- A registry after changes, from the beginning. -/
def after (changes : List Change) : Registry := changes.foldl change .empty

/-- A registry has come out of another one by registration alone. -/
def Grows (r r' : Registry) : Prop :=
  ∃ changes : List Change, .clear ∉ changes ∧ r' = changes.foldl change r

namespace Grows

variable {r r' r'' : Registry}

theorem refl (r : Registry) : r.Grows r := ⟨[], List.not_mem_nil, rfl⟩

theorem trans (h : r.Grows r') (h' : r'.Grows r'') : r.Grows r'' := by
  obtain ⟨changes, hc, rfl⟩ := h
  obtain ⟨more, hm, rfl⟩ := h'
  refine ⟨changes ++ more, ?_, List.foldl_append.symm⟩
  simp [hc, hm]

theorem change (h : r.Grows r') {x : Change} (hx : x ≠ .clear) : r.Grows (r'.change x) :=
  h.trans ⟨[x], by simpa using hx.symm, rfl⟩

end Grows

/-- The entries of a registry stand under the names of their entities. -/
structure WellKeyed (r : Registry) : Prop where
  types : Keyed r.types
  records : Keyed r.records

/-- **A change leaves every entry under its name.** -/
theorem WellKeyed.change {r : Registry} (h : r.WellKeyed) (c : Change) :
    (r.change c).WellKeyed := by
  cases c with
  | register e =>
    rw [Registry.change, insert?]
    cases hi : insertNew? r.types e with
    | none => exact h
    | some types => exact ⟨h.types.insertNew? hi, h.records⟩
  | registerRecord e =>
    rw [Registry.change, insertRecord?]
    cases hi : insertNew? r.records e with
    | none => exact h
    | some records => exact ⟨h.types, h.records.insertNew? hi⟩
  | clear => exact ⟨.nil, .nil⟩

theorem wellKeyed_after (changes : List Change) : (after changes).WellKeyed := by
  have hstep : ∀ (r : Registry), r.WellKeyed → (changes.foldl Registry.change r).WellKeyed := by
    induction changes with
    | nil => exact fun _ h => h
    | cons c changes ih => exact fun r h => ih _ (h.change c)
  exact hstep _ ⟨.nil, .nil⟩

end Registry

end Introspection
