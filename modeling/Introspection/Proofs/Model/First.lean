import Introspection.Proofs.Entity.Placeholders
import Introspection.Proofs.Model.Candidates
import Introspection.Proofs.Model.Intake
import Introspection.Proofs.Outcome

/-!
# First definitions

A model that is built keeps the first definitions of its document, and every other definition is
noticed once.

* `Model.ofDocument_eq`, `Model.ofDocument_eq_fail`, `Model.exists_of_ofDocument`: what it takes to
  build a model;
* `Judged.length_kept_add_length_notes`, `kind_of_mem_notes`: every candidate counts once;
* `Built.KeepsFirst`: what a build has to do with the verdicts on the candidates;
* **`Model.keeps_first_definitions`**: every build keeps the first definitions.
-/

namespace Introspection

open Xml

/-! ## Building -/

/-- The intake of candidates, from the beginning. -/
def Intake.ofCandidates (config : Config) (r : Registry) (cs : List Candidate) : Intake :=
  Intake.takeAll config ⟨r, [], [], [], config.defaultErrorType⟩ cs

theorem Intake.follows_ofCandidates (config : Config) (r : Registry) (cs : List Candidate) :
    Follows config r cs (ofCandidates config r cs) :=
  Follows.start.takeAll cs

/-- What is built from the header of a document and the intake of its candidates. -/
def Built.ofIntake (d : Document) (header : Header) (s : Intake) : Built where
  model := {
    source := d.source
    space := header.space
    identifierPrefixes := header.identifierPrefixes
    symbolPrefixes := header.symbolPrefixes
    kept := s.kept
    errorType := s.errorType
    diagnostics := s.diagnostics }
  registry := s.registry

/-- What is said of a missing header. -/
def Header.warnings (d : Document) (header? : Option Header) : List Warning :=
  if header?.isNone then [.noNamespace d.source] else []

namespace Model

variable {config : Config} {r : Registry} {d : Document}

theorem ofDocument_eq {header? : Option Header} {cs : List Candidate}
    (hh : Header.read? config d = .ok header?) (hc : d.candidates config.rootPrefix = .ok cs) :
    ofDocument config r d =
      ⟨Header.warnings d header? ++ (Intake.ofCandidates config r cs).warnings,
        .ok (.ofIntake d (header?.getD {}) (Intake.ofCandidates config r cs))⟩ := by
  rw [ofDocument, hh, hc]
  cases header? with
  | none =>
    simp only [Outcome.ofExcept_ok_bind, Outcome.warn_bind, Outcome.warnAll_bind_pure]
    rfl
  | some header =>
    simp only [Outcome.ofExcept_ok_bind, Outcome.warnAll_bind_pure]
    rfl

theorem ofDocument_eq_fail {e : Failure} (h : Header.read? config d = .error e) :
    ofDocument config r d = .fail e := by
  rw [ofDocument, h]
  rfl

theorem exists_of_ofDocument {b : Built} (h : (ofDocument config r d).result = .ok b) :
    ∃ header? cs, Header.read? config d = .ok header? ∧
      d.candidates config.rootPrefix = .ok cs := by
  cases hh : Header.read? config d with
  | error e => rw [ofDocument_eq_fail hh] at h; cases h
  | ok header? =>
    cases hc : d.candidates config.rootPrefix with
    | error e => rw [ofDocument, hh, hc] at h; cases header? <;> cases h
    | ok cs => exact ⟨header?, cs, rfl, rfl⟩

end Model

/-! ## Every candidate counts once -/

namespace Judged

/-- A candidate is kept or noticed for its name, and never both. -/
theorem length_kept_add_length_notes (j : Judged) : j.kept.length + j.notes.length = 1 := by
  rw [kept, notes]
  cases j.verdict <;> rfl

theorem kind_of_mem_notes {j : Judged} {x : Diagnostic} (h : x ∈ j.notes) :
    x.kind ≠ .missingAttribute := by
  rw [notes] at h
  cases hv : j.verdict with
  | kept => rw [hv] at h; cases h
  | blacklisted | duplicate =>
    rw [hv] at h
    rw [List.mem_singleton.mp h]
    intro hk
    cases hk

end Judged

theorem Candidate.kind_of_mem_diagnostics {c : Candidate} {x : Diagnostic}
    (h : x ∈ c.diagnostics) : x.kind = .missingAttribute := by
  rw [diagnostics, List.mem_append] at h
  rcases h with h | h
  · by_cases hn : c.isNamed
    · rw [if_pos hn] at h
      cases h
    · rw [if_neg hn] at h
      rw [List.mem_singleton.mp h]
      rfl
  · obtain ⟨p, rfl⟩ := Category.exists_of_mem_diagnostics h
    rfl

theorem filter_diagnostics (js : List Judged) :
    (js.flatMap Judged.diagnostics).filter (·.kind ≠ .missingAttribute) =
      js.flatMap Judged.notes := by
  rw [List.filter_flatMap]
  congr 1
  funext j
  have hc : j.candidate.diagnostics.filter (·.kind ≠ .missingAttribute) = [] := by
    rw [List.filter_eq_nil_iff]
    intro x hx
    simp [Candidate.kind_of_mem_diagnostics hx]
  have hn : j.notes.filter (·.kind ≠ .missingAttribute) = j.notes := by
    rw [List.filter_eq_self]
    intro x hx
    simp [Judged.kind_of_mem_notes hx]
  rw [Judged.diagnostics, List.filter_append, hc, hn, List.nil_append]

section Judge

variable {config : Config} {taken : List String}

theorem map_candidate_judge (before cs : List Candidate) :
    (judge config taken before cs).map (·.candidate) = cs := by
  induction cs generalizing before with
  | nil => rfl
  | cons c cs ih => rw [judge, List.map_cons, ih]

theorem exists_of_mem_keptOf {before cs : List Candidate} {k : Kept}
    (h : k ∈ keptOf config taken before cs) :
    ∃ c ∈ cs, k = ⟨c.category, c.entity.value⟩ := by
  rw [keptOf, List.mem_flatMap] at h
  obtain ⟨j, hj, hk⟩ := h
  refine ⟨j.candidate, ?_, (mem_kept_iff.mp hk).2⟩
  have := List.mem_map_of_mem (f := (·.candidate)) hj
  rwa [map_candidate_judge] at this

theorem flatMap_filter_keptOf {group : Category → List Candidate}
    (hg : ∀ c, ∀ x ∈ group c, x.category = c) {cats : List Category} (hnd : cats.Nodup)
    (before : List Candidate) :
    cats.flatMap (fun c =>
        (keptOf config taken before (cats.flatMap group)).filter (·.category = c)) =
      keptOf config taken before (cats.flatMap group) := by
  induction cats generalizing before with
  | nil => rfl
  | cons c cats ih =>
    rw [List.nodup_cons] at hnd
    rw [List.flatMap_cons (f := group), keptOf_append]
    have hfirst : ∀ k ∈ keptOf config taken before (group c), k.category = c := by
      intro k hk
      obtain ⟨x, hx, rfl⟩ := exists_of_mem_keptOf hk
      exact hg c x hx
    have hrest : ∀ k ∈ keptOf config taken (before ++ group c) (cats.flatMap group),
        k.category ∈ cats := by
      intro k hk
      obtain ⟨x, hx, rfl⟩ := exists_of_mem_keptOf hk
      obtain ⟨a, ha, hxa⟩ := List.mem_flatMap.mp hx
      rwa [hg a x hxa]
    rw [List.flatMap_cons]
    -- What is kept of one category is passed over when the others are asked for.
    congr 1
    · rw [List.filter_append, List.filter_eq_self.mpr (by simpa using hfirst),
        List.filter_eq_nil_iff.mpr, List.append_nil]
      intro k hk
      have := hrest k hk
      rw [decide_eq_true_eq]
      rintro rfl
      exact hnd.1 this
    · rw [List.flatMap_def, List.map_congr_left, ← List.flatMap_def, ih hnd.2]
      intro a ha
      rw [List.filter_append, List.filter_eq_nil_iff.mpr, List.nil_append]
      intro k hk
      rw [hfirst k hk, decide_eq_true_eq]
      rintro rfl
      exact hnd.1 ha

end Judge

/-! ## First definitions -/

/-- What a build has to do with the verdicts on the candidates. -/
structure Built.KeepsFirst (config : Config) (r : Registry) (js : List Judged) (b : Built) :
    Prop where
  kept : b.model.kept = js.flatMap Judged.kept
  grouped : Category.all.flatMap b.model.inCategory = b.model.types
  diagnostics : b.model.diagnostics = js.flatMap Judged.diagnostics
  notes : b.model.diagnostics.filter (·.kind ≠ .missingAttribute) = js.flatMap Judged.notes
  names : b.registry.names = r.names ++ b.model.types.map Entity.name
  lookup_type : ∀ e ∈ b.model.types, b.registry.lookup e.name = some e
  lookup_known : ∀ n ∈ r.names, b.registry.lookup n = r.lookup n
  errorType_type : ∀ e, b.model.find? config.errorTypeName = some e →
    ∃ t, e.type? = some t ∧ b.model.errorType = t.text
  errorType_default :
    b.model.find? config.errorTypeName = none → b.model.errorType = config.defaultErrorType

section OfIntake

variable {config : Config} {r : Registry} {s : Intake}

/-- What is kept of a walk through the categories is ordered by category. -/
theorem flatMap_inCategory {definitions : Category → List Element}
    (h : s.Follows config r (candidatesOf definitions)) :
    Category.all.flatMap (fun c => (s.kept.filter (·.category = c)).map (·.entity)) =
      s.kept.map (·.entity) := by
  have hg : ∀ c, ∀ x ∈ (definitions c).zipIdx.map (fun p => Candidate.mk c p.1 p.2),
      x.category = c := by
    intro c x hx
    obtain ⟨p, -, rfl⟩ := List.mem_map.mp hx
    rfl
  have hnd : Category.all.Nodup := by decide
  rw [← List.map_flatMap, h.kept]
  exact congrArg _ (flatMap_filter_keptOf hg hnd [])

theorem Built.find?_ofIntake (d : Document) (header : Header) (name : String) :
    (ofIntake d header s).model.find? name =
      (s.kept.find? (·.entity.name == name)).map (·.entity) := by
  change (s.kept.map (·.entity)).find? _ = _
  rw [List.find?_map]
  rfl

theorem errorType_of_find? {cs : List Candidate} (h : s.Follows config r cs) {k : Kept}
    (hk : s.kept.find? (·.entity.name == config.errorTypeName) = some k) :
    ∃ t, k.entity.type? = some t ∧ s.errorType = t.text := by
  obtain ⟨c, -, hc⟩ := exists_of_mem_keptOf (h.kept ▸ List.mem_of_find?_eq_some hk)
  obtain ⟨t, ht⟩ := c.category.type?_entity c.element c.index
  have htype : k.entity.type? = some (.written t) := by
    rw [hc]
    exact ht
  refine ⟨_, htype, ?_⟩
  rw [h.errorType, errorTypeOf, hk]
  simp [htype]

theorem Built.keepsFirst_ofIntake (d : Document) (header : Header)
    {definitions : Category → List Element} (h : s.Follows config r (candidatesOf definitions)) :
    Built.KeepsFirst config r (judge config r.names [] (candidatesOf definitions))
      (.ofIntake d header s) where
  kept := h.kept
  grouped := flatMap_inCategory h
  diagnostics := h.diagnostics
  notes := by
    rw [← filter_diagnostics, ← h.diagnostics]
    rfl
  names := Registry.names_of_types_eq h.types
  lookup_type := by
    intro e he
    obtain ⟨k, hk, rfl⟩ : ∃ k ∈ s.kept, k.entity = e := List.mem_map.mp he
    have hnd : ((s.kept.map (·.entity)).map Entity.name).Nodup := by
      rw [h.kept, List.map_map]
      exact nodup_keptOf _ _
    have hk : k ∈ keptOf config r.names [] (candidatesOf definitions) := h.kept ▸ hk
    exact Registry.lookup_name_of_mem h.types hnd he (not_mem_of_mem_keptOf hk).1
  lookup_known := fun n hn => Registry.lookup_of_mem_names h.types hn
  errorType_type := by
    intro e he
    rw [find?_ofIntake, Option.map_eq_some_iff] at he
    obtain ⟨k, hk, rfl⟩ := he
    exact errorType_of_find? h hk
  errorType_default := by
    intro hn
    rw [find?_ofIntake, Option.map_eq_none_iff] at hn
    change s.errorType = _
    rw [h.errorType, errorTypeOf, hn]

end OfIntake

/-- **Every build keeps the first definitions.** They are met category by category, in the order in
which the queries select them. That is document order, with each element once, unless a query goes
to descendants before its last step, and if the prefix of the queries is a name they select what is
defined on the second level. A definition is kept if its name is neither blacklisted, nor known to
the registry, nor the name of an earlier definition that is not blacklisted. Every other one is
noticed once with its name and its position, and a duplicate is said as well. -/
theorem Model.keeps_first_definitions {config : Config} {r : Registry} {d : Document} {b : Built}
    (h : (Model.ofDocument config r d).result = .ok b) :
    ∃ (selected : Category → List Node) (cs : List Candidate) (js : List Judged)
      (said : List Warning),
      (∀ c, d.xpath (c.path config.rootPrefix) config.rootPrefix = .ok (selected c)) ∧
      (∀ c ss, Path.read (d.prefixes config.rootPrefix) (c.path config.rootPrefix) = .ok ss →
        (∀ t, .descendants t ∉ ss.dropLast) → (selected c).Sublist (Node.inclusive ⟨d.root, 0⟩)) ∧
      (isName config.rootPrefix → ∀ c, (selected c).map (·.element) = d.definitions c) ∧
      cs = candidatesOf (fun c => (selected c).map (·.element)) ∧
      (∀ c ∈ cs, c.entity.value.name = c.name) ∧
      js = judge config r.names [] cs ∧ js.map (·.candidate) = cs ∧
      (∀ j ∈ js, j.kept.length + j.notes.length = 1) ∧
      b.KeepsFirst config r js ∧
      (Model.ofDocument config r d).warnings = said ++ js.flatMap Judged.warnings ∧
      (said = [] ∨ said = [.noNamespace d.source]) := by
  obtain ⟨header?, cs, hh, hc⟩ := exists_of_ofDocument h
  obtain ⟨selected, hs, hcs⟩ := Document.exists_of_candidates hc
  have hf := Intake.follows_ofCandidates config r cs
  rw [ofDocument_eq hh hc] at h ⊢
  refine ⟨selected, cs, _, Header.warnings d header?, hs,
    fun c ss hss => Document.xpath_sublist (hs c) hss,
    fun hp c => Document.map_element_xpath hp (hs c), hcs, fun c _ => c.name_entity, rfl,
    map_candidate_judge _ _, fun j _ => j.length_kept_add_length_notes, ?_, ?_, ?_⟩
  · rw [← Except.ok.inj h]
    subst hcs
    exact Built.keepsFirst_ofIntake d _ hf
  · rw [← hf.warnings]
  · cases header? with
    | none => exact .inr rfl
    | some header => exact .inl rfl

/-- A document that defines a name twice, as an alias and as a record. -/
def twiceDefined : String :=
  "<repository xmlns=\"urn:gir\"><namespace name=\"N\">" ++
    "<record name=\"Error\"/><alias name=\"Error\" type=\"int\"/></namespace></repository>"

/-- The alias is met first and gives the error type. -/
theorem Model.keeps_alias_of_twiceDefined :
    ∃ d b, Document.loadText twiceDefined = .ok (some d) ∧
      (Model.ofDocument {} .empty d).result = .ok b ∧
      b.registry.names = Registry.empty.names ++ b.model.types.map Entity.name ∧
      b.model.types.map Entity.kind? = [some .typeAlias] ∧ b.model.errorType = "int" := by
  have hok : (Document.loadText twiceDefined).toOption.join.bind (fun d =>
      (Model.ofDocument {} .empty d).result.toOption.map fun b =>
        (b.model.types.map Entity.kind?, b.model.errorType)) =
      some ([some .typeAlias], "int") := by decide +kernel
  obtain ⟨d, hd, hok⟩ := Option.bind_eq_some_iff.mp hok
  obtain ⟨b, hb, hmodel⟩ := Option.map_eq_some_iff.mp hok
  have hb := eq_ok_of_toOption hb
  obtain ⟨_, _, _, _, _, _, _, _, _, _, _, _, hk, _⟩ := Model.keeps_first_definitions hb
  exact ⟨d, b, eq_ok_of_toOption (Option.join_eq_some_iff.mp hd), hb, hk.names,
    Prod.mk.inj hmodel⟩

/-- A document that defines one alias, below two nested elements. -/
def nested : String :=
  "<r xmlns:g=\"u\"><n><m><q><q><g:alias name=\"A\"/></q></q></m></n></r>"

/-- The prefix of queries that go to all descendants twice. -/
def twiceDown : String := "*//q//g"

/-- Such queries meet the alias twice, and it is a duplicate of itself. -/
theorem Model.duplicates_itself_in_nested :
    ∃ d b, Document.loadText nested = .ok (some d) ∧
      (d.tree.map (·.element.tag)).count "alias" = 1 ∧
      (d.xpath (Category.typeAlias.path twiceDown) twiceDown).map (·.map (·.number)) =
        .ok [5, 5] ∧
      (Model.ofDocument { rootPrefix := twiceDown } .empty d).result = .ok b ∧
      b.model.types.map Entity.name = ["A"] ∧
      .duplicate .typeAlias "A" 1 ∈ b.model.diagnostics ∧
      .duplicateType "A" .typeAlias ∈
        (Model.ofDocument { rootPrefix := twiceDown } .empty d).warnings := by
  have hok : (Document.loadText nested).toOption.join.any (fun d =>
      (d.tree.map (·.element.tag)).count "alias" = 1 &&
        ((d.xpath (Category.typeAlias.path twiceDown) twiceDown).map
          (·.map (·.number))).toOption = some [5, 5] &&
        (Model.ofDocument { rootPrefix := twiceDown } .empty d).result.toOption.any fun b =>
          b.model.types.map Entity.name = ["A"] &&
            .duplicate .typeAlias "A" 1 ∈ b.model.diagnostics &&
            .duplicateType "A" .typeAlias ∈
              (Model.ofDocument { rootPrefix := twiceDown } .empty d).warnings) := by
    decide +kernel
  obtain ⟨d, hd, hok⟩ := exists_of_any_join hok
  simp only [Bool.and_eq_true, decide_eq_true_eq] at hok
  obtain ⟨⟨htags, hselected⟩, hbuilt⟩ := hok
  obtain ⟨b, hb, hok⟩ := exists_of_any hbuilt
  simp only [Bool.and_eq_true, decide_eq_true_eq] at hok
  obtain ⟨⟨htypes, hdiagnostics⟩, hwarnings⟩ := hok
  exact ⟨d, b, hd, htags, eq_ok_of_toOption hselected, hb, htypes, hdiagnostics, hwarnings⟩

end Introspection
