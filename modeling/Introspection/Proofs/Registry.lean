import Introspection.Registry

/-!
# Registration

* `Registry.lookup_isSome_iff`: the names of a registry are those that it finds something for;
* `Registry.insert?_of_mem`, `Registry.insert?_of_not_mem`: registration;
* `Registry.recordAlso`: a record or class among the records, which leaves the names alone.
-/

namespace Introspection

namespace Registry

theorem lookup_isSome_iff {r : Registry} {n : String} : (r.lookup n).isSome ↔ n ∈ r.names := by
  rw [lookup, List.lookup_isSome_iff, names, List.mem_map]
  constructor
  · rintro ⟨p, hp, hn⟩
    exact ⟨p, hp, (beq_iff_eq.mp hn).symm⟩
  · rintro ⟨p, hp, rfl⟩
    exact ⟨p, hp, beq_self_eq_true _⟩

theorem lookup_eq_none_iff {r : Registry} {n : String} : r.lookup n = none ↔ n ∉ r.names := by
  rw [← lookup_isSome_iff, Option.not_isSome_iff_eq_none]

theorem insert?_of_mem {r : Registry} {e : Entity} (h : e.name ∈ r.names) : r.insert? e = none := by
  have := lookup_isSome_iff.mpr h
  rw [lookup] at this
  rw [insert?, insertNew?, if_pos this, Option.map_none]

theorem insert?_of_not_mem {r : Registry} {e : Entity} (h : e.name ∉ r.names) :
    r.insert? e = some { r with types := r.types ++ [(e.name, e)] } := by
  have := lookup_eq_none_iff.mpr h
  rw [lookup] at this
  rw [insert?, insertNew?, this]
  rfl

/-- The registry with an entity among the records as well, if it is a record or class and its name
is free there. -/
def recordAlso (r : Registry) (e : Entity) : Registry :=
  if e.isRecordKind then (r.insertRecord? e).getD r else r

theorem types_recordAlso (r : Registry) (e : Entity) : (r.recordAlso e).types = r.types := by
  rw [recordAlso, insertRecord?]
  split
  · cases insertNew? r.records e <;> rfl
  · rfl

/-! ## Registries that grew -/

section Grown

variable {r r' : Registry} {es : List Entity}

theorem names_of_types_eq (h : r'.types = r.types ++ es.map fun e => (e.name, e)) :
    r'.names = r.names ++ es.map Entity.name := by
  rw [names, h, List.map_append, List.map_map, names]
  rfl

theorem lookup_of_mem_names (h : r'.types = r.types ++ es.map fun e => (e.name, e)) {n : String}
    (hn : n ∈ r.names) : r'.lookup n = r.lookup n := by
  obtain ⟨e, he⟩ := Option.isSome_iff_exists.mp (lookup_isSome_iff.mpr hn)
  rw [lookup] at he
  rw [lookup, lookup, h, List.lookup_append, he, Option.some_or]

theorem lookup_name_of_mem (h : r'.types = r.types ++ es.map fun e => (e.name, e))
    (hnd : (es.map Entity.name).Nodup) {e : Entity} (he : e ∈ es) (hn : e.name ∉ r.names) :
    r'.lookup e.name = some e := by
  have hnone := lookup_eq_none_iff.mpr hn
  rw [lookup] at hnone
  rw [lookup, h, List.lookup_append, hnone, Option.none_or]
  clear h
  induction es with
  | nil => cases he
  | cons a es ih =>
    rw [List.map_cons, List.nodup_cons] at hnd
    rw [List.map_cons, List.lookup_cons]
    rcases List.mem_cons.mp he with rfl | he
    · rw [beq_self_eq_true]
    · have hne : (e.name == a.name) = false := by
        rw [beq_eq_false_iff_ne]
        exact fun hea => hnd.1 (hea ▸ List.mem_map_of_mem he)
      rw [hne]
      exact ih hnd.2 he

end Grown

end Registry

end Introspection
