import Introspection.Proofs.Model.History
import Introspection.Proofs.Model.Merge
import Introspection.Proofs.Registry.Ancestry

/-!
# Ancestors over time

A registry that grows finds what it found before. So a class has the parent that it had, as long as
no record has a dot in its name: such a record could come between a class and the parent that is
found for it without a namespace. The ancestors of a class then only get more, and none are added
where the walk up came to its end.

* `Registry.Extends`: a registry finds the records that another one finds, as one does that has
  grown out of it (`Registry.Grows.extends`, `ModelSet.grows_ofFiles`);
* `Registry.Undotted`: records without dots in their names, and `Registry.Extends.parent?`: parents
  stay;
* `Registry.Climbs.isPrefix_of_extends`, `Registry.Climbs.eq_of_ended`: two walks side by side;
* `Registry.Prolongs`: what becomes of the ancestors of a class;
* **`Registry.ancestry_prolonged`**: ancestors after more registrations, and after more documents.
-/

namespace Introspection

namespace Registry

variable {r r' r'' : Registry}

/-! ## Records that stay -/

/-- A registry finds among its records what another one finds there. -/
def Extends (r r' : Registry) : Prop :=
  ∀ n e, r.lookupRecord n = some e → r'.lookupRecord n = some e

namespace Extends

theorem refl (r : Registry) : r.Extends r := fun _ _ h => h

theorem trans (h : r.Extends r') (h' : r'.Extends r'') : r.Extends r'' :=
  fun n e hn => h' n e (h n e hn)

theorem change {x : Change} (hx : x ≠ .clear) : r.Extends (r.change x) := by
  intro n e hn
  cases x with
  | register a =>
    rw [Registry.change, insert?]
    cases insertNew? r.types a with
    | none => exact hn
    | some types => exact hn
  | registerRecord a =>
    rw [Registry.change, insertRecord?, insertNew?]
    split
    · exact hn
    · -- The new record stands behind the others, so look-up does not get to it.
      rw [lookupRecord] at hn
      simp [lookupRecord, List.lookup_append, hn]
  | clear => exact absurd rfl hx

end Extends

/-- **A registry that has grown finds the records that it found before.** -/
theorem Grows.extends (h : r.Grows r') : r.Extends r' := by
  obtain ⟨changes, hc, rfl⟩ := h
  induction changes generalizing r with
  | nil => exact .refl r
  | cons x changes ih =>
    rw [List.mem_cons, not_or] at hc
    exact (Extends.change (Ne.symm hc.1)).trans (ih hc.2)

/-! ## Names without dots -/

/-- No record has a dot in its name. -/
def Undotted (r : Registry) : Prop := ∀ n e, r.lookupRecord n = some e → '.' ∉ n.toList

theorem undotted_empty : Registry.empty.Undotted := nofun

/-- A change forgets nothing and brings in no record with a dot in its name. -/
def Change.Adds : Change → Prop
  | .register _ => True
  | .registerRecord e => '.' ∉ e.name.toList
  | .clear => False

theorem Change.Adds.ne_clear {x : Change} (h : x.Adds) : x ≠ .clear := by
  rintro rfl
  exact h

theorem Undotted.change (h : r.Undotted) {x : Change} (hx : x.Adds) : (r.change x).Undotted := by
  intro n e hn
  cases x with
  | register a =>
    rw [Registry.change, insert?] at hn
    cases ht : insertNew? r.types a with
    | none => exact h n e (by simpa [ht] using hn)
    | some types => exact h n e (by simpa [ht, lookupRecord] using hn)
  | registerRecord a =>
    rw [Registry.change, insertRecord?, insertNew?] at hn
    split at hn
    · exact h n e hn
    · -- What is found is an old record or the new one.
      simp only [Option.map_some, Option.getD_some, lookupRecord, List.lookup_append] at hn
      rcases Option.or_eq_some_iff.mp hn with hn | ⟨-, hn⟩
      · exact h n e hn
      · by_cases hna : n = a.name
        · exact hna ▸ hx
        · simp [List.lookup_cons, beq_eq_false_iff_ne.mpr hna] at hn
  | clear => exact absurd hx id

theorem Undotted.foldl (h : r.Undotted) {changes : List Change} (hc : ∀ x ∈ changes, x.Adds) :
    (changes.foldl Registry.change r).Undotted := by
  induction changes generalizing r with
  | nil => exact h
  | cons x changes ih =>
    rw [List.forall_mem_cons] at hc
    exact ih (h.change hc.1) hc.2

theorem Extends.undotted (h : r.Extends r') (hu : r'.Undotted) : r.Undotted :=
  fun n e hn => hu n e (h n e hn)

end Registry

theorem withoutNamespace_of_not_mem {n : String} (h : '.' ∉ n.toList) : withoutNamespace n = n := by
  have hall : ∀ c ∈ n.toList.reverse, (c != '.') = true := by
    intro c hc
    rw [bne_iff_ne]
    rintro rfl
    exact h (List.mem_reverse.mp hc)
  rw [withoutNamespace, Text.afterLast, List.takeWhile_eq_self_iff.mpr hall, List.reverse_reverse,
    String.ofList_toList]

namespace Registry

variable {r r' : Registry}

/-! ## Parents that stay -/

/-- Without dots in names, only the name without its namespace counts. -/
theorem Undotted.parent?_eq (h : r.Undotted) (c : ObjectClass) :
    r.parent? c =
      if c.parent = "" then none else r.lookupRecord (withoutNamespace c.parent) := by
  rw [parent?]
  by_cases hdot : '.' ∈ c.parent.toList
  · have hnone : r.lookupRecord c.parent = none := by
      cases hl : r.lookupRecord c.parent with
      | none => rfl
      | some e => exact absurd hdot (h _ _ hl)
    rw [hnone, Option.none_or]
  · rw [withoutNamespace_of_not_mem hdot, Option.or_self]

namespace Extends

/-- **A class keeps the parent that it has.** -/
theorem parent? (h : r.Extends r') (hu : r'.Undotted) {c : ObjectClass} {p : Entity}
    (hp : r.parent? c = some p) : r'.parent? c = some p := by
  rw [(h.undotted hu).parent?_eq] at hp
  rw [hu.parent?_eq]
  split at hp
  · cases hp
  · rw [if_neg (by assumption)]
    exact h _ _ hp

theorem parentOf? (h : r.Extends r') (hu : r'.Undotted) {e p : Entity}
    (hp : r.parentOf? e = some p) : r'.parentOf? e = some p := by
  cases e with
  | objectClass c => exact h.parent? hu hp
  | _ => cases hp

end Extends

/-! ## Walks that stay -/

variable (r) in
/-- The walk up has come to its end at an entity: nothing is above it, or what is above it was met
before. -/
def Ended (met : List String) (e : Entity) : Prop :=
  IsRoot e ∨ ∃ p, r.parentOf? e = some p ∧ p.name ∈ met

namespace Climbs

variable {met : List String} {e : Entity} {ps qs : List Entity}

/-- **The walk goes at least as far as before.** -/
theorem isPrefix_of_extends (hr : r.Climbs met e ps) (hr' : r'.Climbs met e qs)
    (h : r.Extends r') (hu : r'.Undotted) : ps <+: qs := by
  induction hr generalizing qs with
  | top | again => exact List.nil_prefix
  | up hp hn _ ih =>
    -- Both walks take the same step, and have met the same names behind it.
    have hp' := h.parentOf? hu hp
    cases hr' with
    | top hnone => rw [hnone] at hp'; cases hp'
    | again hq hm =>
      obtain rfl := Option.some.inj (hp'.symm.trans hq)
      exact absurd hm hn
    | up hq _ hrest =>
      obtain rfl := Option.some.inj (hp'.symm.trans hq)
      exact List.cons_prefix_cons.mpr ⟨rfl, ih hrest⟩

/-- **The walk goes no further if it had come to its end.** -/
theorem eq_of_ended (hr : r.Climbs met e ps) (hr' : r'.Climbs met e qs) (h : r.Extends r')
    (hu : r'.Undotted) (hend : r.Ended (ps.map Entity.name ++ met) (ps.getLastD e)) : qs = ps := by
  obtain ⟨more, rfl⟩ := hr.isPrefix_of_extends hr' h hu
  cases more with
  | nil => exact List.append_nil ps
  | cons q more =>
    -- The first new entity would be the parent of the last one before.
    have hq : r'.parentOf? (ps.getLastD e) = some q := by
      have hl := hr'.leads
      clear hr hr' hend
      induction ps generalizing e with
      | nil => exact (leads_cons.mp hl).1
      | cons p ps ih =>
        rw [List.getLastD_cons]
        exact ih (leads_cons.mp hl).2
    rcases hend with hroot | ⟨p, hp, hm⟩
    · rw [hroot.parentOf?_eq_none] at hq
      cases hq
    · obtain rfl := Option.some.inj ((h.parentOf? hu hp).symm.trans hq)
      obtain ⟨hnodup, hnew⟩ := hr'.nodup
      rcases List.mem_append.mp hm with hm | hm
      · rw [List.map_append, List.nodup_append] at hnodup
        exact absurd rfl (hnodup.2.2 _ hm _ (by simp))
      · exact absurd hm (hnew p (by simp))

end Climbs

/-! ## Ancestors -/

/-- In another registry, classes have the parents that they have here, and the ancestors of a class
only get more, if any. -/
structure Prolongs (r : Registry) (c : ObjectClass) (r' : Registry) : Prop where
  parent? : ∀ k p, r.parent? k = some p → r'.parent? k = some p
  isPrefix : r.ancestry c <+: r'.ancestry c
  eq_of_ended : r.Ended ((r.ancestry c).map Entity.name ++ [c.name])
    ((r.ancestry c).getLastD (.objectClass c)) → r'.ancestry c = r.ancestry c

theorem Extends.prolongs (h : r.Extends r') (hu : r'.Undotted) (hr : r.WellKeyed)
    (hr' : r'.WellKeyed) (c : ObjectClass) : r.Prolongs c r' where
  parent? _ _ := h.parent? hu
  isPrefix :=
    (ancestry_maximal hr c).climbs.isPrefix_of_extends (ancestry_maximal hr' c).climbs h hu
  eq_of_ended := (ancestry_maximal hr c).climbs.eq_of_ended (ancestry_maximal hr' c).climbs h hu

end Registry

/-- **A registry grows by the models that are built on it.** -/
theorem ModelSet.grows_ofFiles (config : Config) (r : Registry) (fs : Files) (paths : List String) :
    r.Grows (ofFiles config r fs paths).registry := by
  have hall : ∀ s : ModelSet, s.registry.Grows (paths.foldl (add config fs) s).registry := by
    induction paths with
    | nil => exact fun s => .refl s.registry
    | cons path paths ih =>
      intro s
      refine .trans ?_ (ih (s.add config fs path))
      rw [add]
      split
      · exact .refl _
      dsimp only
      split
      · exact .refl _
      · exact .refl _
      · rename_i b hb
        obtain ⟨d, -, hd⟩ := Model.exists_of_ofFile hb
        exact Model.grows_of_ofDocument hd
  exact hall { registry := r }

namespace Registry

/-- **More registrations only prolong ancestors.** As long as no record has a dot in its name,
classes keep the parents that are found for them, and the ancestors of a class are the first of
those that it has later. They are all of them if the walk up had come to an entity that is no class,
to a class that names no parent, or around to a name that it had met. So it is when documents are
built on the registry as well. -/
theorem ancestry_prolonged {before more : List Change} (hbefore : ∀ x ∈ before, x.Adds)
    (hmore : ∀ x ∈ more, x.Adds) (c : ObjectClass) :
    (after before).Prolongs c (after (before ++ more)) ∧
      ∀ config fs paths, (ModelSet.ofFiles config (after before) fs paths).registry.Undotted →
        (after before).Prolongs c (ModelSet.ofFiles config (after before) fs paths).registry := by
  have hkeyed := wellKeyed_after before
  constructor
  · have hgrows : (after before).Grows (after (before ++ more)) :=
      ⟨more, fun hm => (hmore _ hm).ne_clear rfl, List.foldl_append⟩
    have hundotted : (after (before ++ more)).Undotted :=
      undotted_empty.foldl fun x hx => (List.mem_append.mp hx).elim (hbefore x) (hmore x)
    exact hgrows.extends.prolongs hundotted hkeyed (wellKeyed_after _) c
  · intro config fs paths hundotted
    have hgrows := ModelSet.grows_ofFiles config (after before) fs paths
    have hreached : (after before).IsReached := ⟨before, rfl⟩
    exact hgrows.extends.prolongs hundotted hkeyed (hreached.of_grows hgrows).wellKeyed c

/-- A class below another one. -/
def heir (name parent : String) : ObjectClass := { name, parent }

/-- A class whose parent is known, the parent of which comes later. -/
theorem ancestry_prolonged_of_heirs :
    (∀ x ∈ [Change.registerRecord (.objectClass (heir "B" "N.A"))], x.Adds) ∧
      (∀ x ∈ [Change.registerRecord (.objectClass (heir "A" ""))], x.Adds) ∧
      (after [.registerRecord (.objectClass (heir "B" "N.A"))]).Prolongs (heir "C" "M.B")
        (after ([.registerRecord (.objectClass (heir "B" "N.A"))] ++
          [.registerRecord (.objectClass (heir "A" ""))])) ∧
      ((after [.registerRecord (.objectClass (heir "B" "N.A"))]).ancestry
        (heir "C" "M.B")).map Entity.name = ["B"] ∧
      ((after ([.registerRecord (.objectClass (heir "B" "N.A"))] ++
        [.registerRecord (.objectClass (heir "A" ""))])).ancestry (heir "C" "M.B")).map
          Entity.name = ["B", "A"] := by
  have hadds : ∀ name parent, '.' ∉ name.toList →
      ∀ x ∈ [Change.registerRecord (.objectClass (heir name parent))], x.Adds := by
    intro name parent hname x hx
    rw [List.mem_singleton.mp hx]
    exact hname
  have hB := hadds "B" "N.A" (by decide)
  have hA := hadds "A" "" (by decide)
  exact ⟨hB, hA, (ancestry_prolonged hB hA (heir "C" "M.B")).1, by decide, by decide⟩

/-- A record with a dot in its name comes between a class and the parent that it had. -/
example :
    ((after [.registerRecord (.objectClass (heir "A" ""))]).parent? (heir "B" "N.A")).map
        Entity.name = some "A" ∧
      ((after [.registerRecord (.objectClass (heir "A" "")),
        .registerRecord (.objectClass (heir "N.A" ""))]).parent? (heir "B" "N.A")).map
          Entity.name = some "N.A" := by
  decide

end Registry

end Introspection
