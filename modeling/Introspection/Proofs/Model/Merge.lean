import Introspection.Model.Load
import Introspection.Proofs.Model.First

/-!
# Models that share a registry

Several documents with one registry give what each of them gives by itself, except that a name
belongs to the first of them that defines it.

* `Built.Narrows`: a build with a registry leaves out the names that the registry knows;
* `Model.exists_of_ofFile`, `Model.ofFile_of_some`, `Model.ofFile_of_none`: the document at a path,
  and what a build by itself says about the others;
* `isolated`, `Free`: models that are built by themselves, and names that no one owns;
* `ModelSet.Merged`: what is known after some of the paths, with one more path in
  `ModelSet.Merged.add`;
* **`ModelSet.first_owner_merge`**: all paths.
-/

namespace Introspection

/-! ## One document -/

/-- A build with a registry has narrowed a model to the names that the registry does not know. -/
structure Built.Narrows (r : Registry) (m : Model) (b : Built) : Prop where
  source : b.model.source = m.source
  kept : b.model.kept = m.kept.filter fun k => k.entity.name ∉ r.names
  names : b.registry.names = r.names ++ b.model.types.map Entity.name
  nodup : (b.model.types.map Entity.name).Nodup

namespace Built.Narrows

variable {r : Registry} {m : Model} {b : Built}

theorem new (h : b.Narrows r m) {e : Entity} (he : e ∈ b.model.types) : e.name ∉ r.names := by
  obtain ⟨k, hk, rfl⟩ := List.mem_map.mp he
  rw [h.kept, List.mem_filter, decide_eq_true_eq] at hk
  exact hk.2

theorem owned (h : b.Narrows r m) {e : Entity} (he : e ∈ m.types) :
    e.name ∈ b.registry.names := by
  obtain ⟨k, hk, rfl⟩ := List.mem_map.mp he
  rw [h.names, List.mem_append]
  by_cases hn : k.entity.name ∈ r.names
  · exact .inl hn
  · refine .inr (List.mem_map.mpr ⟨k.entity, List.mem_map.mpr ⟨k, ?_, rfl⟩, rfl⟩)
    rw [h.kept, List.mem_filter, decide_eq_true_eq]
    exact ⟨hk, hn⟩

end Built.Narrows

namespace Model

variable {config : Config} {d : Document} {fs : Files} {path : String}

theorem ofDocument_narrows {b₀ : Built} (h : (ofDocument config .empty d).result = .ok b₀)
    (r : Registry) : ∃ b, (ofDocument config r d).result = .ok b ∧ b.Narrows r b₀.model := by
  obtain ⟨header?, cs, hh, hc⟩ := exists_of_ofDocument h
  have hf := Intake.follows_ofCandidates config r cs
  have hf₀ := Intake.follows_ofCandidates config .empty cs
  rw [ofDocument_eq hh hc] at h
  rw [ofDocument_eq hh hc, ← Except.ok.inj h]
  refine ⟨_, rfl, rfl, ?_, Registry.names_of_types_eq hf.types, ?_⟩
  · change (Intake.ofCandidates config r cs).kept =
      (Intake.ofCandidates config .empty cs).kept.filter _
    rw [hf.kept, hf₀.kept]
    exact keptOf_eq_filter [] cs
  · change (((Intake.ofCandidates config r cs).kept.map (·.entity)).map Entity.name).Nodup
    rw [hf.kept, List.map_map]
    exact nodup_keptOf [] cs

theorem ofFile_eq (r : Registry) :
    ofFile config r fs path =
      match Document.ofFile fs path with
      | .error e => .fail e
      | .ok none => .ok none
      | .ok (some d) =>
        ⟨(ofDocument config r d).warnings, (ofDocument config r d).result.map some⟩ := by
  rw [ofFile]
  cases Document.ofFile fs path with
  | error e => rfl
  | ok d? =>
    cases d? with
    | none => rfl
    | some d =>
      rw [Outcome.ofExcept_ok_bind]
      exact Outcome.bind_pure_comp _ some

theorem exists_of_ofFile {r : Registry} {b : Built}
    (h : (ofFile config r fs path).result = .ok (some b)) :
    ∃ d, Document.ofFile fs path = .ok (some d) ∧ (ofDocument config r d).result = .ok b := by
  rw [ofFile_eq] at h
  cases hd : Document.ofFile fs path with
  | error e => rw [hd] at h; cases h
  | ok d? =>
    cases d? with
    | none => rw [hd] at h; cases h
    | some d =>
      rw [hd] at h
      cases hb : (ofDocument config r d).result with
      | error e => simp [hb, Except.map] at h
      | ok b' =>
        simp only [hb, Except.map, Except.ok.injEq, Option.some.injEq] at h
        exact ⟨d, rfl, h ▸ hb⟩

/-- A document gives with a registry what it gives by itself, without the names that the registry
knows. -/
theorem ofFile_of_some {b₀ : Built} (h : (ofFile config .empty fs path).result = .ok (some b₀))
    (r : Registry) :
    ∃ b, (ofFile config r fs path).result = .ok (some b) ∧ b.Narrows r b₀.model := by
  obtain ⟨d, hd, hb₀⟩ := exists_of_ofFile h
  obtain ⟨b, hb, hn⟩ := ofDocument_narrows hb₀ r
  refine ⟨b, ?_, hn⟩
  rw [ofFile_eq, hd]
  simp [hb, Except.map]

theorem ofFile_of_none (h : (ofFile config .empty fs path).result = .ok none) (r : Registry) :
    ofFile config r fs path = .ok none := by
  rw [ofFile_eq] at h ⊢
  cases hd : Document.ofFile fs path with
  | error e => rw [hd] at h; cases h
  | ok d? =>
    cases d? with
    | none => rfl
    | some d =>
      rw [hd] at h
      cases hb : (ofDocument config .empty d).result <;> simp [hb, Except.map] at h

end Model

/-! ## Several documents -/

/-- The models of the documents at several paths, each built by itself. -/
def isolated (config : Config) (fs : Files) (paths : List String) : List Model :=
  paths.filterMap fun path =>
    match (Model.ofFile config .empty fs path).result with
    | .ok (some b) => some b.model
    | _ => none

/-- No one owns a name: it is neither known from the start nor kept by one of several models. -/
def Free (r : Registry) (before : List Model) (name : String) : Prop :=
  name ∉ r.names ∧ ∀ m ∈ before, name ∉ m.types.map Entity.name

instance (r : Registry) (before : List Model) : DecidablePred (Free r before) :=
  fun name => inferInstanceAs (Decidable (name ∉ r.names ∧ ∀ m ∈ before, _))

theorem free_iff {r r' : Registry} {ms : List Model}
    (h : r'.names = r.names ++ (ms.flatMap Model.types).map Entity.name) {name : String} :
    Free r ms name ↔ name ∉ r'.names := by
  rw [h, Free, List.mem_append, not_or, List.map_flatMap, List.mem_flatMap]
  simp only [not_exists, not_and]

section Isolated

variable {config : Config} {fs : Files} {paths : List String} {path : String}

theorem isolated_append_of_some {b : Built}
    (h : (Model.ofFile config .empty fs path).result = .ok (some b)) :
    isolated config fs (paths ++ [path]) = isolated config fs paths ++ [b.model] := by
  rw [isolated, List.filterMap_append, isolated]
  simp [h]

theorem isolated_append_of_none
    (h : (Model.ofFile config .empty fs path).result = .ok none) :
    isolated config fs (paths ++ [path]) = isolated config fs paths := by
  rw [isolated, List.filterMap_append, isolated]
  simp [h]

theorem mem_isolated {b : Built} (hp : path ∈ paths)
    (h : (Model.ofFile config .empty fs path).result = .ok (some b)) :
    b.model ∈ isolated config fs paths :=
  List.mem_filterMap.mpr ⟨path, hp, by rw [h]⟩

end Isolated

namespace ModelSet

variable {config : Config} {r : Registry} {fs : Files} {paths : List String} {path : String}
variable {s : ModelSet}

section Add

variable (hf : s.failure = none)

include hf

theorem add_of_none (h : (Model.ofFile config .empty fs path).result = .ok none) :
    add config fs s path = { s with warnings := s.warnings ++ [.skipped path] } := by
  rw [add, hf, Model.ofFile_of_none h s.registry]
  simp [Outcome.ok]

theorem add_of_some {b : Built}
    (h : (Model.ofFile config s.registry fs path).result = .ok (some b)) :
    add config fs s path =
      { s with
        models := s.models ++ [b.model], registry := b.registry
        warnings := s.warnings ++ (Model.ofFile config s.registry fs path).warnings } := by
  rw [add, hf]
  simp only [Option.isSome_none, Bool.false_eq_true, if_false, h]

end Add

/-! ### The merge -/

/-- Models that share a registry have come to what the documents at some paths give by
themselves, each name being left to its first owner. -/
structure Merged (config : Config) (r : Registry) (fs : Files) (paths : List String)
    (s : ModelSet) : Prop where
  failure : s.failure = none
  sources : s.models.map (·.source) = (isolated config fs paths).map (·.source)
  kept : ∀ i : Nat, (s.models[i]?).map (·.kept) = ((isolated config fs paths)[i]?).map fun m =>
    m.kept.filter fun k => Free r (s.models.take i) k.entity.name
  names : s.registry.names = r.names ++ (s.models.flatMap Model.types).map Entity.name
  nodup : ((s.models.flatMap Model.types).map Entity.name).Nodup
  free : ∀ e ∈ s.models.flatMap Model.types, e.name ∉ r.names
  owned : ∀ m ∈ isolated config fs paths, ∀ e ∈ m.types, e.name ∈ s.registry.names

namespace Merged

theorem start : Merged config r fs [] { registry := r } where
  failure := rfl
  sources := rfl
  kept := by simp [isolated]
  names := by simp
  nodup := .nil
  free := by simp
  owned := by simp [isolated]

theorem length_eq (h : Merged config r fs paths s) :
    s.models.length = (isolated config fs paths).length := by
  rw [← List.length_map (·.source), h.sources, List.length_map]

section Step

variable (h : Merged config r fs paths s) {m : Model} {b : Built} (hb : b.Narrows s.registry m)

include h hb

/-- What a document gives behind others goes by the names that no one owns. -/
theorem kept_concat (i : Nat) :
    ((s.models ++ [b.model])[i]?).map (·.kept) =
      ((isolated config fs paths ++ [m])[i]?).map fun m =>
        m.kept.filter fun k => Free r ((s.models ++ [b.model]).take i) k.entity.name := by
  have hlen := h.length_eq
  rcases Nat.lt_trichotomy i s.models.length with hi | rfl | hi
  · rw [List.getElem?_append_left hi, List.getElem?_append_left (hlen ▸ hi),
      List.take_append_of_le_length (Nat.le_of_lt hi)]
    exact h.kept i
  · rw [List.getElem?_concat_length, hlen, List.getElem?_concat_length, ← hlen, List.take_left,
      Option.map_some, Option.map_some, hb.kept]
    exact congrArg _ (List.filter_congr fun k _ => decide_eq_decide.mpr (free_iff h.names).symm)
  · have hi' : (isolated config fs paths).length < i := hlen ▸ hi
    rw [List.getElem?_eq_none (by simpa using Nat.succ_le_of_lt hi),
      List.getElem?_eq_none (by simpa using Nat.succ_le_of_lt hi')]
    rfl

theorem names_concat :
    b.registry.names =
      r.names ++ ((s.models ++ [b.model]).flatMap Model.types).map Entity.name := by
  rw [hb.names, h.names, List.flatMap_append, List.map_append, List.append_assoc,
    List.flatMap_singleton]

theorem nodup_concat :
    (((s.models ++ [b.model]).flatMap Model.types).map Entity.name).Nodup := by
  rw [List.flatMap_append, List.map_append, List.flatMap_singleton, List.nodup_append]
  refine ⟨h.nodup, hb.nodup, fun a ha n hn han => ?_⟩
  obtain ⟨e, he, rfl⟩ := List.mem_map.mp hn
  refine hb.new he ?_
  rw [h.names, List.mem_append]
  exact .inr (han ▸ ha)

theorem free_concat {e : Entity} (he : e ∈ (s.models ++ [b.model]).flatMap Model.types) :
    e.name ∉ r.names := by
  rw [List.flatMap_append, List.flatMap_singleton, List.mem_append] at he
  rcases he with he | he
  · exact h.free e he
  · intro hr
    refine hb.new he ?_
    rw [h.names, List.mem_append]
    exact .inl hr

theorem owned_concat {m' : Model} (hm : m' ∈ isolated config fs paths ++ [m]) {e : Entity}
    (he : e ∈ m'.types) : e.name ∈ b.registry.names := by
  rw [List.mem_append, List.mem_singleton] at hm
  rcases hm with hm | rfl
  · rw [hb.names, List.mem_append]
    exact .inl (h.owned m' hm e he)
  · exact hb.owned he

end Step

/-- **One more path.** -/
theorem add (h : Merged config r fs paths s) {b? : Option Built}
    (hp : (Model.ofFile config .empty fs path).result = .ok b?) :
    Merged config r fs (paths ++ [path]) (s.add config fs path) := by
  cases b? with
  | none =>
    have hi : isolated config fs (paths ++ [path]) = isolated config fs paths :=
      isolated_append_of_none hp
    rw [add_of_none h.failure hp]
    exact ⟨h.failure, hi ▸ h.sources, hi ▸ h.kept, h.names, h.nodup, h.free, hi ▸ h.owned⟩
  | some b₀ =>
    obtain ⟨b, hb, hn⟩ := Model.ofFile_of_some hp s.registry
    rw [add_of_some h.failure hb]
    refine ⟨h.failure, ?_, ?_, h.names_concat hn, h.nodup_concat hn, fun _ => h.free_concat hn, ?_⟩
    · rw [isolated_append_of_some hp, List.map_append, List.map_append, h.sources]
      simp [hn.source]
    · rw [isolated_append_of_some hp]
      exact h.kept_concat hn
    · rw [isolated_append_of_some hp]
      exact fun _ hm _ => h.owned_concat hn hm

end Merged

/-! ### All paths -/

theorem ofFiles_append (more : List String) :
    ofFiles config r fs (paths ++ more) = more.foldl (add config fs) (ofFiles config r fs paths) :=
  List.foldl_append

theorem ofFiles_concat :
    ofFiles config r fs (paths ++ [path]) = add config fs (ofFiles config r fs paths) path :=
  ofFiles_append [path]

theorem merged_foldl {s : ModelSet} (h : Merged config r fs paths s) {more : List String}
    (hok : ∀ p ∈ more, ∃ b?, (Model.ofFile config .empty fs p).result = .ok b?) :
    Merged config r fs (paths ++ more) (more.foldl (add config fs) s) := by
  induction more generalizing paths s with
  | nil => rwa [List.append_nil]
  | cons p more ih =>
    obtain ⟨b?, hp⟩ := hok p List.mem_cons_self
    have := ih (h.add hp) fun q hq => hok q (List.mem_cons_of_mem _ hq)
    rwa [List.append_assoc] at this

theorem exists_models_foldl (s : ModelSet) (more : List String) :
    ∃ later, (more.foldl (add config fs) s).models = s.models ++ later := by
  induction more generalizing s with
  | nil => exact ⟨[], (List.append_nil _).symm⟩
  | cons p more ih =>
    obtain ⟨later, hl⟩ := ih (add config fs s p)
    have hstep : ∃ ms, (add config fs s p).models = s.models ++ ms := by
      rw [add]
      split
      · exact ⟨[], (List.append_nil _).symm⟩
      · dsimp only
        split
        · exact ⟨[], (List.append_nil _).symm⟩
        · exact ⟨[], (List.append_nil _).symm⟩
        · exact ⟨[_], rfl⟩
    obtain ⟨ms, hms⟩ := hstep
    exact ⟨ms ++ later, by rw [List.foldl_cons, hl, hms, List.append_assoc]⟩

/-- A document that was built before keeps nothing. -/
theorem Merged.add_again {s : ModelSet} (h : Merged config r fs paths s) {b : Built}
    (hpath : path ∈ paths) (hp : (Model.ofFile config .empty fs path).result = .ok (some b)) :
    ∃ m, (s.add config fs path).models = s.models ++ [m] ∧ m.types = [] ∧
      (s.add config fs path).registry.names = s.registry.names := by
  obtain ⟨b', hb, hn⟩ := Model.ofFile_of_some hp s.registry
  have htypes : b'.model.types = [] := by
    rw [Model.types, hn.kept, List.filter_eq_nil_iff.mpr, List.map_nil]
    intro k hk
    rw [decide_eq_true_eq, Classical.not_not]
    exact h.owned _ (mem_isolated hpath hp) _ (List.mem_map_of_mem hk)
  rw [add_of_some h.failure hb]
  refine ⟨b'.model, rfl, htypes, ?_⟩
  rw [hn.names, htypes, List.map_nil, List.append_nil]

/-- **Models that share a registry are the first-owner merge of the isolated models.** In the order
of the paths, the models are those of the documents built by themselves, less the definitions whose
names are known from the start or kept by an earlier model. Paths that cannot be loaded are skipped
with a warning, more paths change nothing in earlier models, and no path keeps anything twice. -/
theorem first_owner_merge
    (h : ∀ p ∈ paths, ∃ b?, (Model.ofFile config .empty fs p).result = .ok b?) :
    Merged config r fs paths (ofFiles config r fs paths) ∧
    (∀ p, (Model.ofFile config .empty fs p).result = .ok none →
      ofFiles config r fs (paths ++ [p]) =
        { ofFiles config r fs paths with
          warnings := (ofFiles config r fs paths).warnings ++ [.skipped p] }) ∧
    (∀ more, ∃ later,
      (ofFiles config r fs (paths ++ more)).models = (ofFiles config r fs paths).models ++ later) ∧
    (∀ p ∈ paths, ∀ b, (Model.ofFile config .empty fs p).result = .ok (some b) →
      ∃ m, (ofFiles config r fs (paths ++ [p])).models = (ofFiles config r fs paths).models ++ [m] ∧
        m.types = [] ∧
        (ofFiles config r fs (paths ++ [p])).registry.names =
          (ofFiles config r fs paths).registry.names) := by
  have hm : Merged config r fs paths (ofFiles config r fs paths) := merged_foldl .start h
  refine ⟨hm, fun p hp => ?_, fun more => ?_, fun p hpath b hp => ?_⟩
  · rw [ofFiles_concat, add_of_none hm.failure hp]
  · rw [ofFiles_append]
    exact exists_models_foldl _ more
  · rw [ofFiles_concat]
    exact hm.add_again hpath hp

/-- The same document in two files. -/
def twins : Files :=
  (({} : Files).write (Path.ofText "a") ⟨twiceDefined.toUTF8.toList, 0⟩ 0).write (Path.ofText "b")
    ⟨twiceDefined.toUTF8.toList, 0⟩ 0

/-- The first of two equal documents owns the names, and a missing one is skipped. -/
theorem first_owner_of_twins :
    (∀ p ∈ ["a", "c", "b"], ∃ b?, (Model.ofFile {} .empty twins p).result = .ok b?) ∧
      Merged {} .empty twins ["a", "c", "b"] (ofFiles {} .empty twins ["a", "c", "b"]) ∧
      (ofFiles {} .empty twins ["a", "c", "b"]).models.map (·.types.map Entity.name) =
        [["Error"], []] := by
  have hok : ∀ p ∈ ["a", "c", "b"], ∃ b?, (Model.ofFile {} .empty twins p).result = .ok b? := by
    intro p hp
    have hp' : ∀ p ∈ ["a", "c", "b"], (Model.ofFile {} .empty twins p).result.isOk := by
      decide +kernel
    cases hr : (Model.ofFile {} .empty twins p).result with
    | ok b? => exact ⟨b?, rfl⟩
    | error e =>
      have := hp' p hp
      rw [hr] at this
      cases this
  exact ⟨hok, (first_owner_merge hok).1, by decide +kernel⟩

end ModelSet

end Introspection
