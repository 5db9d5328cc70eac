import Mathlib.Data.List.Chain
import Introspection.Proofs.Registry.History

/-!
# Ancestors

Parents are found by name, so going from parent to parent may lead in a circle. The walk ends all
the same, since every step meets a record that was not met before.

* `Registry.Leads`: chains of parents;
* `Registry.Climbs`: the walk without a bound on its steps, and **`Registry.climbs_climb`**: it ends
  within as many steps as there are records left to meet;
* `Registry.Climbs.nodup`, `Registry.Climbs.leads`, `Registry.Climbs.stopsAt`,
  `Registry.Climbs.isPrefix`: what a walk gives, and that no chain without repetition goes further;
* `Registry.Climbs.takeWhile`: the walk that has met one more name;
* **`Registry.ancestry_maximal`**: the ancestors of a class;
* **`Registry.isRooted_iff`**: whether they lead to an entity that names no parent.
-/

namespace Introspection

namespace Registry

variable {r : Registry}

/-! ## Parents -/

/-- Each of the entities behind the first one is the parent of the one before it. -/
def Leads (r : Registry) (e : Entity) (ps : List Entity) : Prop :=
  (e :: ps).IsChain fun a b => r.parentOf? a = some b

theorem leads_nil {e : Entity} : r.Leads e [] := List.isChain_singleton _

theorem leads_cons {e p : Entity} {ps : List Entity} :
    r.Leads e (p :: ps) ↔ r.parentOf? e = some p ∧ r.Leads p ps :=
  List.isChain_cons_cons

theorem mem_records_of_parentOf? (h : r.WellKeyed) {e p : Entity} (hp : r.parentOf? e = some p) :
    (p.name, p) ∈ r.records := by
  cases e with
  | objectClass c =>
    rw [parentOf?, parent?] at hp
    split at hp
    · cases hp
    · rcases Option.or_eq_some_iff.mp hp with hp | ⟨-, hp⟩
      · exact h.records.mem_of_lookup hp
      · exact h.records.mem_of_lookup hp
  | _ => cases hp

/-! ## The walk -/

/-- From an entity, the walk up goes through some parents and ends: at an entity without a parent,
or before a parent whose name was met. -/
inductive Climbs (r : Registry) : List String → Entity → List Entity → Prop where
  | top {met : List String} {e : Entity} : r.parentOf? e = none → Climbs r met e []
  | again {met : List String} {e p : Entity} :
    r.parentOf? e = some p → p.name ∈ met → Climbs r met e []
  | up {met : List String} {e p : Entity} {ps : List Entity} :
    r.parentOf? e = some p → p.name ∉ met → Climbs r (p.name :: met) p ps → Climbs r met e (p :: ps)

/-- The number of records whose names were not met. -/
def unmet (r : Registry) (met : List String) : Nat :=
  (r.records.filter fun x => x.1 ∉ met).length

theorem unmet_cons_lt {p : Entity} {met : List String} (hp : (p.name, p) ∈ r.records)
    (hn : p.name ∉ met) : r.unmet (p.name :: met) < r.unmet met := by
  have hfilter : r.records.filter (fun x => x.1 ∉ p.name :: met) =
      (r.records.filter fun x => x.1 ∉ met).filter fun x => x.1 ≠ p.name := by
    rw [List.filter_filter]
    refine List.filter_congr fun x _ => ?_
    simp
  rw [unmet, unmet, hfilter, List.length_filter_lt_length_iff_exists]
  exact ⟨_, List.mem_filter.mpr ⟨hp, by simpa using hn⟩, by simp⟩

/-- **The walk ends within as many steps as there are records left to meet.** -/
theorem climbs_climb (h : r.WellKeyed) {fuel : Nat} {met : List String} (hfuel : r.unmet met ≤ fuel)
    (e : Entity) : r.Climbs met e (r.climb fuel met e) := by
  induction fuel generalizing met e with
  | zero =>
    -- No record is left, so a parent can only be one that was met.
    rw [climb]
    cases hp : r.parentOf? e with
    | none => exact .top hp
    | some p =>
      by_cases hn : p.name ∈ met
      · exact .again hp hn
      · have := unmet_cons_lt (mem_records_of_parentOf? h hp) hn
        omega
  | succ fuel ih =>
    rw [climb]
    cases hp : r.parentOf? e with
    | none => exact .top hp
    | some p =>
      by_cases hn : p.name ∈ met
      · simp only [if_pos hn]
        exact .again hp hn
      · have := unmet_cons_lt (mem_records_of_parentOf? h hp) hn
        simp only [if_neg hn]
        exact .up hp hn (ih (by omega) p)

theorem length_climb_le (r : Registry) (fuel : Nat) (met : List String) (e : Entity) :
    (r.climb fuel met e).length ≤ fuel := by
  induction fuel generalizing met e with
  | zero => rw [climb]; exact Nat.le_refl 0
  | succ fuel ih =>
    rw [climb]
    cases r.parentOf? e with
    | none => exact Nat.zero_le _
    | some p =>
      dsimp only
      split
      · exact Nat.zero_le _
      · exact Nat.succ_le_succ (ih _ p)

/-- Why a walk ends at an entity after some names were met. -/
inductive StopsAt (r : Registry) (met : List String) : Entity → Prop where
  | noClass {e : Entity} : (∀ c, e ≠ .objectClass c) → StopsAt r met e
  | noParent {c : ObjectClass} : c.parent = "" → StopsAt r met (.objectClass c)
  | unknown {c : ObjectClass} :
    c.parent ≠ "" → r.parent? c = none → StopsAt r met (.objectClass c)
  | again {c : ObjectClass} {p : Entity} :
    r.parent? c = some p → p.name ∈ met → StopsAt r met (.objectClass c)

theorem stopsAt_of_parentOf?_eq_none {met : List String} {e : Entity} (h : r.parentOf? e = none) :
    r.StopsAt met e := by
  cases e with
  | objectClass c =>
    by_cases hc : c.parent = ""
    · exact .noParent hc
    · exact .unknown hc h
  | _ => exact .noClass nofun

namespace Climbs

variable {met : List String} {e : Entity} {ps qs : List Entity}

theorem unique (h : r.Climbs met e ps) (h' : r.Climbs met e qs) : ps = qs := by
  induction h generalizing qs with
  | top hp =>
    cases h' with
    | top | again => rfl
    | up hp' => rw [hp] at hp'; cases hp'
  | again hp hn =>
    cases h' with
    | top | again => rfl
    | up hp' hn' =>
      rw [hp] at hp'
      cases hp'
      exact absurd hn hn'
  | up hp hn _ ih =>
    cases h' with
    | top hp' => rw [hp] at hp'; cases hp'
    | again hp' hn' =>
      rw [hp] at hp'
      cases hp'
      exact absurd hn' hn
    | up hp' _ h' =>
      rw [hp] at hp'
      cases hp'
      rw [ih h']

theorem leads (h : r.Climbs met e ps) : r.Leads e ps := by
  induction h with
  | top | again => exact leads_nil
  | up hp _ _ ih => exact leads_cons.mpr ⟨hp, ih⟩

theorem nodup (h : r.Climbs met e ps) :
    (ps.map Entity.name).Nodup ∧ ∀ p ∈ ps, p.name ∉ met := by
  induction h with
  | top | again => exact ⟨List.nodup_nil, List.forall_mem_nil _⟩
  | up _ hn _ ih =>
    obtain ⟨hnodup, hnew⟩ := ih
    refine ⟨List.nodup_cons.mpr ⟨fun hm => ?_, hnodup⟩, ?_⟩
    · obtain ⟨q, hq, hname⟩ := List.mem_map.mp hm
      exact hnew q hq (hname ▸ List.mem_cons_self)
    · rintro q (_ | ⟨_, hq⟩)
      · exact hn
      · exact fun hm => hnew q hq (List.mem_cons_of_mem _ hm)

theorem stopsAt (h : r.Climbs met e ps) :
    r.StopsAt (ps.map Entity.name ++ met) (ps.getLastD e) := by
  induction h with
  | top hp => exact stopsAt_of_parentOf?_eq_none hp
  | again hp hn =>
    rename_i e _
    cases e with
    | objectClass c => exact .again hp hn
    | _ => cases hp
  | up _ _ _ ih =>
    -- The walk goes on where its first step led, and stops for the same reason as the rest of it.
    rw [List.getLastD_cons, List.map_cons]
    generalize List.getLastD _ _ = last at ih ⊢
    cases ih with
    | noClass hc => exact .noClass hc
    | noParent hc => exact .noParent hc
    | unknown hc hp => exact .unknown hc hp
    | again hp hn => exact .again hp (by simpa [or_left_comm] using hn)

/-- A chain of parents that meets no name twice goes no further than the walk. -/
theorem isPrefix (h : r.Climbs met e ps) (hl : r.Leads e qs)
    (hnodup : (qs.map Entity.name).Nodup) (hnew : ∀ q ∈ qs, q.name ∉ met) : qs <+: ps := by
  induction h generalizing qs with
  | top hp =>
    cases qs with
    | nil => exact List.prefix_refl _
    | cons q qs => rw [(leads_cons.mp hl).1] at hp; cases hp
  | again hp hn =>
    cases qs with
    | nil => exact List.prefix_refl _
    | cons q qs =>
      rw [(leads_cons.mp hl).1] at hp
      cases hp
      exact absurd hn (hnew _ List.mem_cons_self)
  | up hp hn _ ih =>
    cases qs with
    | nil => exact List.nil_prefix
    | cons q qs =>
      obtain ⟨hq, hl⟩ := leads_cons.mp hl
      rw [hp] at hq
      cases hq
      rw [List.map_cons, List.nodup_cons] at hnodup
      refine List.cons_prefix_cons.mpr ⟨rfl, ih hl hnodup.2 fun q hq hm => ?_⟩
      rcases List.mem_cons.mp hm with hm | hm
      · exact hnodup.1 (hm ▸ List.mem_map_of_mem hq)
      · exact hnew q (List.mem_cons_of_mem _ hq) hm

theorem takeWhile (h : r.Climbs met e ps) {n : String} {met' : List String}
    (hmet : ∀ m, m ∈ met' ↔ m = n ∨ m ∈ met) :
    r.Climbs met' e (ps.takeWhile (·.name ≠ n)) := by
  induction h generalizing met' with
  | top hp => exact .top hp
  | again hp hn => exact .again hp ((hmet _).mpr (.inr hn))
  | up hp hn _ ih =>
    rename_i p ps _
    by_cases hpn : p.name = n
    · rw [List.takeWhile_cons_of_neg (by simpa using hpn)]
      exact .again hp ((hmet _).mpr (.inl hpn))
    · rw [List.takeWhile_cons_of_pos (by simpa using hpn)]
      refine .up hp (fun hm => ?_) (ih fun m => ?_)
      · exact ((hmet _).mp hm).elim hpn hn
      · simp only [List.mem_cons, hmet, or_left_comm]

end Climbs

/-! ## Ancestors -/

/-- The ancestors of an entity, which has some only if it is a class. -/
def ancestorsOf (r : Registry) : Entity → List Entity
  | .objectClass c => r.ancestry c
  | _ => []

/-- Some entities are the chain of parents of a class, as far as it goes without repetition. -/
structure IsAncestry (r : Registry) (c : ObjectClass) (ps : List Entity) : Prop where
  /-- The walk without a bound ends with these entities. -/
  climbs : r.Climbs [c.name] (.objectClass c) ps
  bounded : ps.length ≤ r.records.length
  of_none : r.parent? c = none → ps = []
  of_self : ∀ p, r.parent? c = some p → p.name = c.name → ps = []
  of_other : ∀ p, r.parent? c = some p → p.name ≠ c.name →
    ps = p :: (r.ancestorsOf p).takeWhile (·.name ≠ c.name)
  nodup : (c.name :: ps.map Entity.name).Nodup
  leads : r.Leads (.objectClass c) ps
  stopsAt : r.StopsAt (ps.map Entity.name ++ [c.name]) (ps.getLastD (.objectClass c))
  maximal : ∀ qs, r.Leads (.objectClass c) qs → (c.name :: qs.map Entity.name).Nodup → qs <+: ps

theorem climbs_ancestorsOf (h : r.WellKeyed) (e : Entity) :
    r.Climbs [e.name] e (r.ancestorsOf e) := by
  cases e with
  | objectClass c => exact climbs_climb h (List.length_filter_le _ _) _
  | _ => exact .top rfl

/-- **The ancestors of a class are its parents as far as no name is met twice.** -/
theorem ancestry_maximal (h : r.WellKeyed) (c : ObjectClass) : r.IsAncestry c (r.ancestry c) := by
  have hclimbs : r.Climbs [c.name] (.objectClass c) (r.ancestry c) :=
    climbs_ancestorsOf h (.objectClass c)
  obtain ⟨hnodup, hnew⟩ := hclimbs.nodup
  refine ⟨hclimbs, length_climb_le _ _ _ _, fun hp => ?_, fun p hp hn => ?_, fun p hp hn => ?_, ?_,
    hclimbs.leads, hclimbs.stopsAt, fun qs hl hq => ?_⟩
  · exact hclimbs.unique (.top hp)
  · exact hclimbs.unique (.again hp (List.mem_singleton.mpr hn))
  · -- What the parent has met is what the class has met, but for the name of the class.
    have hmore : r.Climbs [p.name, c.name] p
        ((r.ancestorsOf p).takeWhile (·.name ≠ c.name)) :=
      (climbs_ancestorsOf h p).takeWhile (by simp [or_comm])
    exact hclimbs.unique (.up hp (by simpa using hn) hmore)
  · refine List.nodup_cons.mpr ⟨fun hm => ?_, hnodup⟩
    obtain ⟨p, hp, hname⟩ := List.mem_map.mp hm
    exact hnew p hp (List.mem_singleton.mpr hname)
  · rw [List.nodup_cons] at hq
    refine hclimbs.isPrefix hl hq.2 fun q hmem hn => hq.1 ?_
    exact List.mem_singleton.mp hn ▸ List.mem_map_of_mem hmem

/-! ## Roots -/

/-- An entity is no class, or a class that names no parent. -/
def IsRoot (e : Entity) : Prop := ∀ c, e = .objectClass c → c.parent = ""

/-- The parents of an entity lead to a root, and no name is met twice on the way. -/
def IsRooted (r : Registry) (e : Entity) : Prop :=
  ∃ ps, r.Leads e ps ∧ ((e :: ps).map Entity.name).Nodup ∧ IsRoot (ps.getLastD e)

theorem IsRoot.parentOf?_eq_none {e : Entity} (h : IsRoot e) : r.parentOf? e = none := by
  cases e with
  | objectClass c => rw [parentOf?, parent?, if_pos (h c rfl)]
  | _ => rfl

theorem Leads.isPrefix {e : Entity} {ps qs : List Entity} (hq : r.Leads e qs) (hp : r.Leads e ps)
    (hend : r.parentOf? (ps.getLastD e) = none) : qs <+: ps := by
  induction qs generalizing e ps with
  | nil => exact List.nil_prefix
  | cons q qs ih =>
    obtain ⟨heq, hq⟩ := leads_cons.mp hq
    cases ps with
    | nil => rw [List.getLastD_nil, heq] at hend; cases hend
    | cons p ps =>
      obtain ⟨hep, hp⟩ := leads_cons.mp hp
      rw [heq] at hep
      cases hep
      rw [List.getLastD_cons] at hend
      exact List.cons_prefix_cons.mpr ⟨rfl, ih hq hp hend⟩

/-- **A class is rooted just if the last of its ancestors is a root.** -/
theorem isRooted_iff (h : r.WellKeyed) (c : ObjectClass) :
    r.IsRooted (.objectClass c) ↔ IsRoot ((r.ancestry c).getLastD (.objectClass c)) := by
  have hc := ancestry_maximal h c
  constructor
  · -- A chain to a root is part of the ancestors, and nothing goes beyond a root.
    rintro ⟨ps, hl, hnodup, hroot⟩
    have hle := hc.maximal ps hl hnodup
    have hge := hc.leads.isPrefix hl hroot.parentOf?_eq_none
    rwa [hge.eq_of_length_le hle.length_le]
  · exact fun hroot => ⟨_, hc.leads, hc.nodup, hroot⟩

theorem not_isRooted_of_not_nodup {e : Entity} {ps : List Entity} (hl : r.Leads e ps)
    (hps : ¬((e :: ps).map Entity.name).Nodup) : ¬r.IsRooted e := by
  rintro ⟨qs, hq, hnodup, hroot⟩
  have hle := hl.isPrefix hq hroot.parentOf?_eq_none
  have hsub : ((e :: ps).map Entity.name).Sublist ((e :: qs).map Entity.name) :=
    (List.cons_prefix_cons.mpr ⟨rfl, hle⟩).sublist.map _
  exact hps (hnodup.sublist hsub)

theorem not_isRooted_of_unknown {e : Entity} {ps : List Entity} {c : ObjectClass}
    (hl : r.Leads e ps) (hlast : ps.getLastD e = .objectClass c) (hc : c.parent ≠ "")
    (hp : r.parent? c = none) : ¬r.IsRooted e := by
  rintro ⟨qs, hq, -, hroot⟩
  have hle := hl.isPrefix hq hroot.parentOf?_eq_none
  have hge := hq.isPrefix hl (by rw [hlast]; exact hp)
  rw [hge.eq_of_length_le hle.length_le, hlast] at hroot
  exact hc (hroot c rfl)

end Registry

end Introspection
