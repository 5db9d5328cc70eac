import Introspection.Model.Basic
import Introspection.Proofs.Entity.OfElement
import Introspection.Proofs.Registry

/-!
# What becomes of candidates

A candidate is kept if its name is not blacklisted, not taken from the start, and not the name of
an earlier candidate that is not blacklisted. The intake goes by its registry instead of the
candidates before, and comes to the same verdicts.

* `Candidate.verdict`, `judge`: what becomes of a candidate, and of several;
* `keptOf`, `not_mem_of_mem_keptOf`, `nodup_keptOf`, `keptOf_eq_filter`: the kept entities;
* `Intake.Follows`: the intake has come to the verdicts on some candidates;
* **`Intake.Follows.takeAll`**: the intake follows the verdicts all along.
-/

namespace Introspection

/-! ## Verdicts -/

/-- What becomes of a candidate. -/
inductive Verdict where
  | kept
  | blacklisted
  | duplicate
deriving DecidableEq, Repr

namespace Candidate

/-- The name of a candidate, made from its position if its element gives none. -/
def name (c : Candidate) : String := nameOrUnknown c.element c.index

theorem name_entity (c : Candidate) : c.entity.value.name = c.name :=
  c.category.name_entity c.element c.index

/-- What becomes of a candidate behind others, some names being taken from the start. -/
def verdict (config : Config) (taken : List String) (before : List Candidate) (c : Candidate) :
    Verdict :=
  if c.name ∈ config.blacklist then .blacklisted
  else if c.name ∈ taken ∨ ∃ b ∈ before, b.name ∉ config.blacklist ∧ b.name = c.name then .duplicate
  else .kept

end Candidate

/-- A candidate with what becomes of it. -/
structure Judged where
  candidate : Candidate
  verdict : Verdict

namespace Judged

/-- The entity, if it is kept. -/
def kept (j : Judged) : List Kept :=
  match j.verdict with
  | .kept => [⟨j.candidate.category, j.candidate.entity.value⟩]
  | _ => []

/-- What is noticed about the name. -/
def notes (j : Judged) : List Diagnostic :=
  match j.verdict with
  | .kept => []
  | .blacklisted => [.blacklisted j.candidate.category j.candidate.name j.candidate.index]
  | .duplicate => [.duplicate j.candidate.category j.candidate.name j.candidate.index]

/-- All that is noticed. -/
def diagnostics (j : Judged) : List Diagnostic := j.candidate.diagnostics ++ j.notes

/-- What is said on the way. -/
def warnings (j : Judged) : List Warning :=
  match j.verdict with
  | .duplicate => [.duplicateType j.candidate.name j.candidate.category]
  | _ => []

end Judged

/-- What becomes of candidates, one after the other, behind some that came before them. -/
def judge (config : Config) (taken : List String) (before : List Candidate) :
    List Candidate → List Judged
  | [] => []
  | c :: cs => ⟨c, c.verdict config taken before⟩ :: judge config taken (before ++ [c]) cs

/-- The kept ones of candidates. -/
def keptOf (config : Config) (taken : List String) (before cs : List Candidate) : List Kept :=
  (judge config taken before cs).flatMap Judged.kept

section Judge

variable {config : Config} {taken : List String}

theorem judge_append (before cs ds : List Candidate) :
    judge config taken before (cs ++ ds) =
      judge config taken before cs ++ judge config taken (before ++ cs) ds := by
  induction cs generalizing before with
  | nil => simp [judge]
  | cons c cs ih => simp [judge, ih]

theorem keptOf_cons (before : List Candidate) (c : Candidate) (cs : List Candidate) :
    keptOf config taken before (c :: cs) =
      Judged.kept ⟨c, c.verdict config taken before⟩ ++
        keptOf config taken (before ++ [c]) cs := by
  rw [keptOf, judge, List.flatMap_cons, keptOf]

theorem keptOf_append (before cs ds : List Candidate) :
    keptOf config taken before (cs ++ ds) =
      keptOf config taken before cs ++ keptOf config taken (before ++ cs) ds := by
  rw [keptOf, judge_append, List.flatMap_append, keptOf, keptOf]

theorem verdict_eq_kept_iff {before : List Candidate} {c : Candidate} :
    c.verdict config taken before = .kept ↔
      c.name ∉ config.blacklist ∧ c.name ∉ taken ∧
        ∀ b ∈ before, b.name ∉ config.blacklist → b.name ≠ c.name := by
  unfold Candidate.verdict
  by_cases hb : c.name ∈ config.blacklist
  · simp [hb]
  · by_cases hd : c.name ∈ taken ∨ ∃ b ∈ before, b.name ∉ config.blacklist ∧ b.name = c.name
    · rw [if_neg hb, if_pos hd]
      refine ⟨nofun, fun ⟨_, ht, hn⟩ => ?_⟩
      obtain h | ⟨b, hm, hbl, hbn⟩ := hd
      · exact absurd h ht
      · exact absurd hbn (hn b hm hbl)
    · rw [if_neg hb, if_neg hd]
      rw [not_or] at hd
      exact ⟨fun _ => ⟨hb, hd.1, fun b hm hbl hbn => hd.2 ⟨b, hm, hbl, hbn⟩⟩, fun _ => rfl⟩

theorem mem_kept_iff {c : Candidate} {v : Verdict} {k : Kept} :
    k ∈ Judged.kept ⟨c, v⟩ ↔ v = .kept ∧ k = ⟨c.category, c.entity.value⟩ := by
  cases v <;> simp [Judged.kept]

theorem not_mem_of_mem_keptOf {before cs : List Candidate} {k : Kept}
    (h : k ∈ keptOf config taken before cs) :
    k.entity.name ∉ taken ∧ k.entity.name ∉ config.blacklist ∧
      ∀ b ∈ before, b.name ∉ config.blacklist → b.name ≠ k.entity.name := by
  induction cs generalizing before with
  | nil => cases h
  | cons c cs ih =>
    rw [keptOf_cons, List.mem_append, mem_kept_iff] at h
    rcases h with ⟨hv, rfl⟩ | h
    · obtain ⟨hb, ht, hn⟩ := verdict_eq_kept_iff.mp hv
      rw [c.name_entity]
      exact ⟨ht, hb, hn⟩
    · obtain ⟨ht, hb, hn⟩ := ih h
      exact ⟨ht, hb, fun b hm => hn b (List.mem_append_left _ hm)⟩

theorem nodup_keptOf (before cs : List Candidate) :
    ((keptOf config taken before cs).map (·.entity.name)).Nodup := by
  induction cs generalizing before with
  | nil => exact .nil
  | cons c cs ih =>
    rw [keptOf_cons, List.map_append, List.nodup_append]
    refine ⟨?_, ih _, fun a ha b hb hab => ?_⟩
    · cases c.verdict config taken before <;> simp [Judged.kept]
    · obtain ⟨k, hk, rfl⟩ := List.mem_map.mp ha
      obtain ⟨l, hl, rfl⟩ := List.mem_map.mp hb
      obtain ⟨hv, rfl⟩ := mem_kept_iff.mp hk
      have hbl := (verdict_eq_kept_iff.mp hv).1
      refine (not_mem_of_mem_keptOf hl).2.2 c (by simp) hbl ?_
      rw [← c.name_entity]
      exact hab

/-- A name is taken behind candidates if it was before, or if one of them has it and is not
blacklisted. -/
theorem mem_taken_or_mem_keptOf {cs : List Candidate} {n : String} :
    (n ∈ taken ∨ n ∈ (keptOf config taken [] cs).map (·.entity.name)) ↔
      n ∈ taken ∨ ∃ b ∈ cs, b.name ∉ config.blacklist ∧ b.name = n := by
  -- The candidates before are left open, as their names are taken too.
  have key : ∀ before : List Candidate,
      (n ∈ taken ∨ (∃ b ∈ before, b.name ∉ config.blacklist ∧ b.name = n) ∨
        n ∈ (keptOf config taken before cs).map (·.entity.name)) ↔
      n ∈ taken ∨ (∃ b ∈ before, b.name ∉ config.blacklist ∧ b.name = n) ∨
        ∃ b ∈ cs, b.name ∉ config.blacklist ∧ b.name = n := by
    induction cs with
    | nil => simp [keptOf, judge]
    | cons c cs ih =>
      intro before
      have := ih (before ++ [c])
      rw [keptOf_cons]
      by_cases hv : c.verdict config taken before = .kept
      · have hk := (verdict_eq_kept_iff.mp hv).1
        simp only [hv, Judged.kept, List.map_append, List.map_cons, List.map_nil, List.mem_append,
          c.name_entity, List.mem_cons, exists_eq_or_imp] at this ⊢
        grind
      · have hk : Judged.kept ⟨c, c.verdict config taken before⟩ = [] := by
          cases hc : c.verdict config taken before <;> simp_all [Judged.kept]
        rw [verdict_eq_kept_iff] at hv
        simp only [hk, List.nil_append, List.mem_append, List.mem_cons,
          exists_eq_or_imp] at this ⊢
        grind
  simpa using key []

/-- Of the entities that are kept with no name taken, those are kept whose names are not taken. -/
theorem keptOf_eq_filter (before cs : List Candidate) :
    keptOf config taken before cs =
      (keptOf config [] before cs).filter fun k => k.entity.name ∉ taken := by
  induction cs generalizing before with
  | nil => rfl
  | cons c cs ih =>
    rw [keptOf_cons, keptOf_cons, List.filter_append, ih]
    congr 1
    unfold Candidate.verdict
    by_cases hb : c.name ∈ config.blacklist
    · simp [hb, Judged.kept]
    · by_cases ht : c.name ∈ taken
      · by_cases hd : ∃ b ∈ before, b.name ∉ config.blacklist ∧ b.name = c.name <;>
          simp [hb, ht, hd, Judged.kept, c.name_entity]
      · by_cases hd : ∃ b ∈ before, b.name ∉ config.blacklist ∧ b.name = c.name <;>
          simp [hb, ht, hd, Judged.kept, c.name_entity]

end Judge

/-! ## The intake -/

/-- The error type after some entities were kept: the type of the one with the name of error
types. -/
def errorTypeOf (config : Config) (ks : List Kept) : String :=
  match ks.find? (·.entity.name == config.errorTypeName) with
  | some k => (k.entity.type?.map (·.text)).getD ""
  | none => config.defaultErrorType

theorem errorTypeOf_append {config : Config} {ks : List Kept} {k : Kept}
    (h : k.entity.name ∉ ks.map (·.entity.name)) :
    errorTypeOf config (ks ++ [k]) =
      if k.entity.name = config.errorTypeName then (k.entity.type?.map (·.text)).getD ""
      else errorTypeOf config ks := by
  rw [errorTypeOf, List.find?_append]
  by_cases hk : k.entity.name = config.errorTypeName
  · have hnone : ks.find? (·.entity.name == config.errorTypeName) = none := by
      rw [List.find?_eq_none]
      intro l hl hn
      exact h (List.mem_map.mpr ⟨l, hl, (beq_iff_eq.mp hn).trans hk.symm⟩)
    rw [hnone, if_pos hk]
    simp [hk]
  · rw [if_neg hk, errorTypeOf]
    simp [hk]

namespace Intake

section Take

variable {config : Config} {s : Intake} {c : Candidate}

theorem take_of_blacklisted (hb : c.name ∈ config.blacklist) :
    s.take config c = (s.note c.diagnostics).note [.blacklisted c.category c.name c.index] := by
  rw [take, if_pos (c.name_entity.symm ▸ hb), c.name_entity]

theorem take_of_taken (hb : c.name ∉ config.blacklist) (hn : c.name ∈ s.registry.names) :
    s.take config c =
      { (s.note c.diagnostics).note [.duplicate c.category c.name c.index] with
        warnings := s.warnings ++ [.duplicateType c.name c.category] } := by
  rw [take, if_neg (c.name_entity.symm ▸ hb)]
  simp only [note, Registry.insert?_of_mem (c.name_entity.symm ▸ hn), c.name_entity]

theorem take_of_new (hb : c.name ∉ config.blacklist) (hn : c.name ∉ s.registry.names) :
    s.take config c =
      (s.note c.diagnostics).keep config c.category c.entity.value
        { s.registry with
          types := s.registry.types ++ [(c.entity.value.name, c.entity.value)] } := by
  have hn' : c.entity.value.name ∉ s.registry.names := c.name_entity.symm ▸ hn
  rw [take, if_neg (c.name_entity.symm ▸ hb)]
  simp only [note, Registry.insert?_of_not_mem hn']

end Take

/-- An intake that began with a registry has come to the verdicts on some candidates. -/
structure Follows (config : Config) (r : Registry) (cs : List Candidate) (s : Intake) : Prop where
  kept : s.kept = keptOf config r.names [] cs
  types : s.registry.types = r.types ++ (s.kept.map (·.entity)).map fun e => (e.name, e)
  diagnostics : s.diagnostics = (judge config r.names [] cs).flatMap Judged.diagnostics
  warnings : s.warnings = (judge config r.names [] cs).flatMap Judged.warnings
  errorType : s.errorType = errorTypeOf config s.kept

namespace Follows

variable {config : Config} {r : Registry} {cs : List Candidate} {s : Intake}

theorem start : Follows config r [] ⟨r, [], [], [], config.defaultErrorType⟩ where
  kept := rfl
  types := by simp
  diagnostics := rfl
  warnings := rfl
  errorType := rfl

theorem mem_names_iff (h : Follows config r cs s) {n : String} :
    n ∈ s.registry.names ↔
      n ∈ r.names ∨ ∃ b ∈ cs, b.name ∉ config.blacklist ∧ b.name = n := by
  rw [Registry.names_of_types_eq h.types, h.kept, List.mem_append, List.map_map]
  exact mem_taken_or_mem_keptOf

theorem verdict_eq (h : Follows config r cs s) (c : Candidate) :
    c.verdict config r.names cs =
      if c.name ∈ config.blacklist then .blacklisted
      else if c.name ∈ s.registry.names then .duplicate else .kept := by
  rw [Candidate.verdict]
  simp only [h.mem_names_iff]

theorem concat (h : Follows config r cs s) {c : Candidate} {v : Verdict} {s' : Intake}
    (hv : c.verdict config r.names cs = v) (hkept : s'.kept = s.kept ++ Judged.kept ⟨c, v⟩)
    (htypes : s'.registry.types = s.registry.types ++
      ((Judged.kept ⟨c, v⟩).map (·.entity)).map fun e => (e.name, e))
    (hdiagnostics : s'.diagnostics = s.diagnostics ++ Judged.diagnostics ⟨c, v⟩)
    (hwarnings : s'.warnings = s.warnings ++ Judged.warnings ⟨c, v⟩)
    (herror : s'.errorType = errorTypeOf config s'.kept) : Follows config r (cs ++ [c]) s' := by
  have hjudge : judge config r.names [] (cs ++ [c]) = judge config r.names [] cs ++ [⟨c, v⟩] := by
    rw [judge_append, ← hv]
    rfl
  refine ⟨?_, ?_, ?_, ?_, herror⟩
  · rw [hkept, h.kept, keptOf, keptOf, hjudge, List.flatMap_append, List.flatMap_singleton]
  · rw [htypes, h.types, hkept, List.map_append, List.map_append, List.append_assoc]
  · rw [hdiagnostics, h.diagnostics, hjudge, List.flatMap_append, List.flatMap_singleton]
  · rw [hwarnings, h.warnings, hjudge, List.flatMap_append, List.flatMap_singleton]

/-- **One more candidate.** -/
theorem take (h : Follows config r cs s) (c : Candidate) :
    Follows config r (cs ++ [c]) (s.take config c) := by
  have hverdict := h.verdict_eq c
  by_cases hb : c.name ∈ config.blacklist
  · rw [if_pos hb] at hverdict
    rw [take_of_blacklisted hb]
    refine h.concat hverdict ?_ ?_ ?_ ?_ h.errorType <;>
    simp [note, Judged.kept, Judged.diagnostics, Judged.notes, Judged.warnings]
  rw [if_neg hb] at hverdict
  by_cases hn : c.name ∈ s.registry.names
  · rw [if_pos hn] at hverdict
    rw [take_of_taken hb hn]
    refine h.concat hverdict ?_ ?_ ?_ ?_ h.errorType <;>
    simp [note, Judged.kept, Judged.diagnostics, Judged.notes, Judged.warnings]
  · rw [if_neg hn] at hverdict
    rw [take_of_new hb hn]
    refine h.concat hverdict ?_ ?_ ?_ ?_ ?_
    · rfl
    · exact Registry.types_recordAlso _ _
    · simp [keep, note, Judged.diagnostics, Judged.notes]
    · simp [keep, note, Judged.warnings]
    · change _ = errorTypeOf config (s.kept ++ [⟨c.category, c.entity.value⟩])
      rw [errorTypeOf_append, ← h.errorType]
      · rfl
      · -- A kept name is known to the registry.
        intro hm
        refine hn (c.name_entity ▸ ?_)
        rw [Registry.names_of_types_eq h.types, List.mem_append, List.map_map]
        exact .inr hm

/-- **The intake follows the verdicts all along.** -/
theorem takeAll (h : Follows config r cs s) (ds : List Candidate) :
    Follows config r (cs ++ ds) (s.takeAll config ds) := by
  induction ds generalizing cs s with
  | nil => rwa [List.append_nil]
  | cons d ds ih =>
    have := ih (h.take d)
    rwa [List.append_assoc] at this

end Follows

end Intake

end Introspection
