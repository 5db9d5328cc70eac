import Mathlib.Data.List.DropRight
import Introspection.Proofs.Registry.History

/-!
# The first registration wins

What a registry knows at any time can be told from what happened to it: of the entities that were
registered since everything was forgotten, the first one with each name, and the same of the
records.

* `Registry.sinceClear`, `Registry.registered`, `Registry.recorded`: what happened since then;
* `Firsts`: entries that hold the first of several entities with each name, and **`Firsts.concat`**:
  one more entity;
* `Registry.Change.accepts`: whether a change takes its entity in;
* **`Registry.firsts_after`**: the entries after changes;
* **`Registry.after_holdsFirsts`**: what a registry knows after changes.
-/

namespace Introspection

/-! ## Entries -/

/-- Entries hold the first of several entities with each name, in the order in which the names came
first. -/
structure Firsts (es : List Entity) (entries : List (String × Entity)) : Prop where
  names : entries.map (·.1) = (es.map Entity.name).eraseDups
  lookup : ∀ n, entries.lookup n = es.find? (·.name == n)

theorem eraseDups_concat {α : Type} [BEq α] [LawfulBEq α] {as : List α} {a : α} :
    (as ++ [a]).eraseDups = if a ∈ as then as.eraseDups else as.eraseDups ++ [a] := by
  rw [List.eraseDups_append, List.removeAll]
  split
  · next h => simp [h]
  · next h => simp [h, List.eraseDups_cons]

namespace Firsts

variable {es : List Entity} {entries : List (String × Entity)}

theorem nil : Firsts [] [] := ⟨rfl, fun _ => rfl⟩

theorem lookup_eq_none_iff (h : Firsts es entries) {n : String} :
    entries.lookup n = none ↔ n ∉ es.map Entity.name := by
  rw [h.lookup, List.find?_eq_none, List.mem_map]
  simp

/-- **One more entity takes its name if that is free, and changes nothing else.** -/
theorem concat (h : Firsts es entries) (e : Entity) :
    Firsts (es ++ [e]) ((insertNew? entries e).getD entries) := by
  rw [insertNew?]
  cases hl : entries.lookup e.name with
  | some x =>
    have htaken : e.name ∈ es.map Entity.name := by
      by_contra hn
      rw [h.lookup_eq_none_iff.mpr hn] at hl
      cases hl
    refine ⟨?_, fun n => ?_⟩
    · rw [List.map_append, List.map_singleton, eraseDups_concat, if_pos htaken]
      exact h.names
    · change entries.lookup n = _
      rw [List.find?_append, ← h.lookup]
      by_cases hn : e.name = n
      · rw [← hn, hl, Option.some_or]
      · simp [hn]
  | none =>
    have hfree := h.lookup_eq_none_iff.mp hl
    refine ⟨?_, fun n => ?_⟩
    · change (entries ++ [(e.name, e)]).map (·.1) = _
      rw [List.map_append, h.names, List.map_singleton, List.map_append, List.map_singleton,
        eraseDups_concat, if_neg hfree]
    · change (entries ++ [(e.name, e)]).lookup n = _
      rw [List.lookup_append, List.find?_append, h.lookup]
      by_cases hn : e.name = n
      · simp [hn]
      · simp [hn, List.lookup_cons, beq_eq_false_iff_ne.mpr (Ne.symm hn)]

end Firsts

namespace Registry

/-! ## Histories -/

namespace Change

def isClear : Change → Bool
  | .clear => true
  | _ => false

/-- The entity that a change registers. -/
def registered? : Change → Option Entity
  | .register e => some e
  | _ => none

/-- The entity that a change registers among the records. -/
def recorded? : Change → Option Entity
  | .registerRecord e => some e
  | _ => none

/-- Whether a change of a registry takes its entity in; to forget everything is always possible. -/
def accepts (r : Registry) : Change → Bool
  | .register e => (r.insert? e).isSome
  | .registerRecord e => (r.insertRecord? e).isSome
  | .clear => true

end Change

/-- What happened since everything was forgotten last. -/
def sinceClear (changes : List Change) : List Change := changes.rtakeWhile (!·.isClear)

/-- The entities that were registered since then, whether or not their names were free. -/
def registered (changes : List Change) : List Entity :=
  (sinceClear changes).filterMap Change.registered?

/-- The entities that were registered among the records since then. -/
def recorded (changes : List Change) : List Entity :=
  (sinceClear changes).filterMap Change.recorded?

section Concat

variable (changes : List Change) (x : Change)

theorem sinceClear_concat :
    sinceClear (changes ++ [x]) = if x.isClear then [] else sinceClear changes ++ [x] := by
  rw [sinceClear, List.rtakeWhile_concat]
  cases x <;> rfl

theorem registered_concat :
    registered (changes ++ [x]) =
      if x.isClear then [] else registered changes ++ x.registered?.toList := by
  rw [registered, sinceClear_concat]
  cases x <;> simp [Change.isClear, Change.registered?, registered, List.filterMap_cons]

theorem recorded_concat :
    recorded (changes ++ [x]) =
      if x.isClear then [] else recorded changes ++ x.recorded?.toList := by
  rw [recorded, sinceClear_concat]
  cases x <;> simp [Change.isClear, Change.recorded?, recorded, List.filterMap_cons]

end Concat

/-! ## The entries after changes -/

theorem after_concat (changes : List Change) (x : Change) :
    after (changes ++ [x]) = (after changes).change x := by
  rw [after, List.foldl_append]
  rfl

theorem types_register (r : Registry) (e : Entity) :
    (r.change (.register e)).types = (insertNew? r.types e).getD r.types := by
  rw [change, insert?]
  cases insertNew? r.types e <;> rfl

theorem records_registerRecord (r : Registry) (e : Entity) :
    (r.change (.registerRecord e)).records = (insertNew? r.records e).getD r.records := by
  rw [change, insertRecord?]
  cases insertNew? r.records e <;> rfl

theorem records_register (r : Registry) (e : Entity) :
    (r.change (.register e)).records = r.records := by
  rw [change, insert?]
  cases insertNew? r.types e <;> rfl

theorem types_registerRecord (r : Registry) (e : Entity) :
    (r.change (.registerRecord e)).types = r.types := by
  rw [change, insertRecord?]
  cases insertNew? r.records e <;> rfl

/-- **After changes there is what came first since everything was forgotten**, once for all entities
and once for the records. -/
theorem firsts_after (changes : List Change) :
    Firsts (registered changes) (after changes).types ∧
      Firsts (recorded changes) (after changes).records := by
  induction changes using List.reverseRecOn with
  | nil => exact ⟨.nil, .nil⟩
  | append_singleton changes x ih =>
    rw [after_concat, registered_concat, recorded_concat]
    cases x with
    | register e =>
      rw [types_register, records_register]
      exact ⟨ih.1.concat e, (List.append_nil (recorded changes)).symm ▸ ih.2⟩
    | registerRecord e =>
      rw [types_registerRecord, records_registerRecord]
      exact ⟨(List.append_nil (registered changes)).symm ▸ ih.1, ih.2.concat e⟩
    | clear => exact ⟨.nil, .nil⟩

/-! ## What a registry knows -/

theorem change_of_not_accepts {r : Registry} {x : Change} (h : ¬x.accepts r) : r.change x = r := by
  cases x with
  | register e =>
    have hnone : r.insert? e = none := Option.not_isSome_iff_eq_none.mp h
    rw [change, hnone, Option.getD_none]
  | registerRecord e =>
    have hnone : r.insertRecord? e = none := Option.not_isSome_iff_eq_none.mp h
    rw [change, hnone, Option.getD_none]
  | clear => exact absurd rfl h

theorem isSome_insertNew?_iff {entries : List (String × Entity)} {e : Entity} :
    (insertNew? entries e).isSome ↔ entries.lookup e.name = none := by
  rw [insertNew?]
  cases entries.lookup e.name <;> simp

/-- A registry knows what came first since everything was forgotten, and goes on so. -/
structure HoldsFirsts (changes : List Change) (r : Registry) : Prop where
  nodup : r.names.Nodup
  /-- The names are all that were registered, in the order in which they came first. -/
  names_eq : r.names = ((registered changes).map Entity.name).eraseDups
  lookup_eq : ∀ n, r.lookup n = (registered changes).find? (·.name == n)
  lookupRecord_eq : ∀ n, r.lookupRecord n = (recorded changes).find? (·.name == n)
  lookup_isSome_iff : ∀ n, (r.lookup n).isSome ↔ n ∈ r.names
  contains_iff : ∀ n, r.contains n ↔ n ∈ r.names
  isRecord_iff : ∀ n, r.isRecord n ↔ ∃ e ∈ recorded changes, e.name = n
  kindOf?_eq : ∀ n, r.kindOf? n = ((registered changes).find? (·.name == n)).bind Entity.kind?
  size_eq : r.size = r.names.length
  /-- An entity is taken in if its name is free in the place where it is registered. -/
  accepts_register_iff : ∀ e, Change.accepts r (.register e) ↔ r.lookup e.name = none
  accepts_registerRecord_iff :
    ∀ e, Change.accepts r (.registerRecord e) ↔ r.lookupRecord e.name = none
  refused : ∀ x : Change, ¬x.accepts r → r.change x = r
  /-- The two places do not get in each other's way. -/
  records_register : ∀ e, (r.change (.register e)).records = r.records
  types_registerRecord : ∀ e, (r.change (.registerRecord e)).types = r.types

/-- **The first registration wins.** After any changes, a registry knows the first entity that was
registered under each name since everything was forgotten, in the order in which the names came
first, and of the records the first one that was registered under each name among them. It takes in
what has a free name and stays as it is otherwise. -/
theorem after_holdsFirsts (changes : List Change) : HoldsFirsts changes (after changes) := by
  obtain ⟨htypes, hrecords⟩ := firsts_after changes
  refine ⟨(wellKeyed_after changes).types.nodup, htypes.names, htypes.lookup, hrecords.lookup,
    fun _ => lookup_isSome_iff, fun _ => lookup_isSome_iff, fun n => ?_, fun n => ?_,
    (List.length_map _).symm, fun e => ?_, fun e => ?_, fun _ => change_of_not_accepts,
    (after changes).records_register, (after changes).types_registerRecord⟩
  · rw [isRecord, lookupRecord, hrecords.lookup, List.find?_isSome]
    simp
  · rw [kindOf?, lookup, htypes.lookup]
  · rw [Change.accepts, insert?, Option.isSome_map, isSome_insertNew?_iff, lookup]
  · rw [Change.accepts, insertRecord?, Option.isSome_map, isSome_insertNew?_iff, lookupRecord]

end Registry

end Introspection
