import Mathlib.Data.List.Forall2
import Mathlib.Data.List.Nodup
import Introspection.Json.Basic

/-!
# Objects without an order

The fields of an object have an order in which they are written, but what an object says does not
depend on it.

* `Json.Alike`: values that differ in the order of fields only;
* `Json.Shows`: the values of some fields, up to that order;
* **`Json.Alike.shows`**: a value that is like an object shows the fields of the object;
* `Json.text?`, `Json.bool?`, `Json.integer?`, `Json.optional?`, `Json.list?`: what a value holds;
* `Json.readAt?`: what a field holds.
-/

namespace Introspection.Json

/-- Two values that differ in the order of fields only. -/
inductive Alike : Json → Json → Prop where
  | refl (j : Json) : Alike j j
  | list {js ks : List Json} : List.Forall₂ Alike js ks → Alike (.list js) (.list ks)
  | object {fs gs hs : List (String × Json)} : fs.map (·.1) = gs.map (·.1) →
    List.Forall₂ Alike (fs.map (·.2)) (gs.map (·.2)) → gs.Perm hs →
      Alike (.object fs) (.object hs)

namespace Alike

theorem eq_text {s : String} {j : Json} (h : Alike (.text s) j) : j = .text s := by
  cases h
  rfl

theorem eq_bool {b : Bool} {j : Json} (h : Alike (.bool b) j) : j = .bool b := by
  cases h
  rfl

theorem eq_integer {n : Int} {j : Json} (h : Alike (.integer n) j) : j = .integer n := by
  cases h
  rfl

theorem eq_null {j : Json} (h : Alike .null j) : j = .null := by
  cases h
  rfl

theorem forall_refl (js : List Json) : List.Forall₂ Alike js js :=
  List.forall₂_same.mpr fun j _ => .refl j

theorem exists_of_list {js : List Json} {j : Json} (h : Alike (.list js) j) :
    ∃ ks, j = .list ks ∧ List.Forall₂ Alike js ks := by
  cases h with
  | refl => exact ⟨js, rfl, forall_refl js⟩
  | list h => exact ⟨_, rfl, h⟩

theorem exists_of_object {fs : List (String × Json)} {j : Json} (h : Alike (.object fs) j) :
    ∃ gs hs : List (String × Json), j = .object hs ∧ fs.map (·.1) = gs.map (·.1) ∧
      List.Forall₂ Alike (fs.map (·.2)) (gs.map (·.2)) ∧ gs.Perm hs := by
  cases h with
  | refl => exact ⟨fs, fs, rfl, rfl, forall_refl _, .refl _⟩
  | object hkeys hvalues hp => exact ⟨_, _, rfl, hkeys, hvalues, hp⟩

end Alike

/-! ## Fields -/

/-- A value has the given fields, up to the order of fields in their values. -/
def Shows (j : Json) (fs : List (String × Json)) : Prop :=
  ∀ f ∈ fs, ∃ k, j.field? f.1 = some k ∧ f.2.Alike k

theorem Shows.of_subset {j : Json} {fs gs : List (String × Json)} (h : j.Shows gs) (hs : fs ⊆ gs) :
    j.Shows fs :=
  fun f hf => h f (hs hf)

theorem field?_eq_none {fs : List (String × Json)} {key : String} (h : key ∉ fs.map (·.1)) :
    (object fs).field? key = none := by
  rw [field?, Option.map_eq_none_iff, List.find?_eq_none]
  intro f hf hkey
  refine h (List.mem_map.mpr ⟨f, List.mem_reverse.mp hf, beq_iff_eq.mp hkey⟩)

theorem field?_eq_some {fs : List (String × Json)} (hnd : (fs.map (·.1)).Nodup) {key : String}
    {j : Json} (h : (key, j) ∈ fs) : (object fs).field? key = some j := by
  have hsome : (fs.reverse.find? (·.1 == key)).isSome :=
    List.find?_isSome.mpr ⟨_, List.mem_reverse.mpr h, beq_self_eq_true key⟩
  obtain ⟨f, hf⟩ := Option.isSome_iff_exists.mp hsome
  have hkey : f.1 = key := by simpa using List.find?_some hf
  have hmem : f ∈ fs := List.mem_reverse.mp (List.mem_of_find?_eq_some hf)
  rw [field?, hf, List.inj_on_of_nodup_map hnd hmem h hkey]
  rfl

theorem exists_mem_of_forall {fs gs : List (String × Json)} (hkeys : fs.map (·.1) = gs.map (·.1))
    (hvalues : List.Forall₂ Alike (fs.map (·.2)) (gs.map (·.2))) {f : String × Json}
    (hf : f ∈ fs) : ∃ k, (f.1, k) ∈ gs ∧ f.2.Alike k := by
  induction fs generalizing gs with
  | nil => cases hf
  | cons f' fs ih =>
    cases gs with
    | nil => cases hkeys
    | cons g gs =>
      rw [List.map_cons, List.map_cons, List.cons.injEq] at hkeys
      rw [List.map_cons, List.map_cons, List.forall₂_cons] at hvalues
      rcases List.mem_cons.mp hf with rfl | hf
      · exact ⟨g.2, by rw [hkeys.1]; exact List.mem_cons_self, hvalues.1⟩
      · obtain ⟨k, hk, hfk⟩ := ih hkeys.2 hvalues.2 hf
        exact ⟨k, List.mem_cons_of_mem _ hk, hfk⟩

namespace Alike

variable {fs : List (String × Json)} {j : Json}

/-- **A value that is like an object shows the fields of the object.** -/
theorem shows (h : Alike (.object fs) j) (hnd : (fs.map (·.1)).Nodup) : j.Shows fs := by
  obtain ⟨gs, hs, rfl, hkeys, hvalues, hp⟩ := h.exists_of_object
  have hnd' : (hs.map (·.1)).Nodup := (hp.map (·.1)).nodup_iff.mp (hkeys ▸ hnd)
  intro f hf
  obtain ⟨k, hk, hfk⟩ := exists_mem_of_forall hkeys hvalues hf
  exact ⟨k, field?_eq_some hnd' (hp.mem_iff.mp hk), hfk⟩

theorem field?_eq_none (h : Alike (.object fs) j) {key : String} (hk : key ∉ fs.map (·.1)) :
    j.field? key = none := by
  obtain ⟨gs, hs, rfl, hkeys, -, hp⟩ := h.exists_of_object
  refine Json.field?_eq_none fun hm => hk ?_
  rw [hkeys]
  exact (hp.map (·.1)).mem_iff.mpr hm

end Alike

/-! ## What values hold -/

def text? : Json → Option String
  | .text s => some s
  | _ => none

def bool? : Json → Option Bool
  | .bool b => some b
  | _ => none

def integer? : Json → Option Int
  | .integer n => some n
  | _ => none

section

variable {α : Type}

/-- A value that may be missing. -/
def optional? (read : Json → Option α) : Json → Option (Option α)
  | .null => some none
  | j => (read j).map some

/-- The items of a list. -/
def list? (read : Json → Option α) : Json → Option (List α)
  | .list js => js.mapM read
  | _ => none

/-- What a field holds. -/
def readAt? (j : Json) (key : String) (read : Json → Option α) : Option α :=
  (j.field? key).bind read

theorem text?_of_alike {s : String} {j : Json} (h : Alike (.text s) j) : j.text? = some s := by
  rw [h.eq_text, text?]

theorem bool?_of_alike {b : Bool} {j : Json} (h : Alike (.bool b) j) : j.bool? = some b := by
  rw [h.eq_bool, bool?]

theorem integer?_of_alike {n : Int} {j : Json} (h : Alike (.integer n) j) :
    j.integer? = some n := by
  rw [h.eq_integer, integer?]

theorem optional?_of_alike {s? : Option String} {j : Json} (h : Alike (.optional .text s?) j) :
    j.optional? text? = some s? := by
  cases s? with
  | none => rw [h.eq_null, optional?]
  | some s =>
    rw [h.eq_text]
    rfl

theorem list?_of_alike {f : α → Json} {as : List α} {read : Json → Option α}
    (hread : ∀ a ∈ as, ∀ j, (f a).Alike j → read j = some a) {j : Json}
    (h : Alike (.list (as.map f)) j) : j.list? read = some as := by
  obtain ⟨ks, rfl, hks⟩ := h.exists_of_list
  rw [list?]
  clear h
  induction as generalizing ks with
  | nil =>
    cases hks
    rfl
  | cons a as ih =>
    cases hks with
    | cons hk hks =>
      rw [List.mapM_cons, hread a List.mem_cons_self _ hk,
        ih (fun b hb => hread b (List.mem_cons_of_mem _ hb)) _ hks]
      rfl

/-- A field is read if all values that are like the one it shows are read. -/
theorem Shows.readAt? {j : Json} {fs : List (String × Json)} (h : j.Shows fs) {key : String}
    {k : Json} (hk : (key, k) ∈ fs) {read : Json → Option α} {a : α}
    (hread : ∀ i, k.Alike i → read i = some a) : j.readAt? key read = some a := by
  obtain ⟨i, hi, hki⟩ := h _ hk
  rw [Json.readAt?, hi]
  exact hread i hki

end

end Introspection.Json
