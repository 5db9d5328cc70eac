import Introspection.Proofs.Model.First

/-!
# Blacklists

A blacklist is a filter on what is built without one. Two intakes go through the same candidates,
one of them without the blacklist and one with it, and the second one always has what the first one
has, less what goes by the names of the blacklist.

* `Config.unlisted`: a configuration without its blacklist;
* `Sifted`: two lists that grew from one, the second one by part of what the first one grew by;
* `Intake.Sifts`: what an intake with a blacklist has to do with one that has none;
* **`Intake.Sifts.take`**, `Intake.Sifts.takeAll`: one candidate, and all of them;
* `Built.Sifts`: the same for what is built;
* **`Model.blacklist_sifts`**: a blacklist is a filter.
-/

namespace Introspection

/-- A configuration without its blacklist. -/
def Config.unlisted (c : Config) : Config := { c with blacklist := .empty }

theorem NameSet.not_mem_empty (n : String) : n ∉ NameSet.empty := List.not_mem_nil

/-! ## Lists that grow -/

/-- Two lists have grown from one, the second one only by that part of the new entries that has a
property. -/
def Sifted {α : Type} (p : α → Bool) (base all part : List α) : Prop :=
  ∃ new, all = base ++ new ∧ part = base ++ new.filter p

namespace Sifted

variable {α β : Type} {p : α → Bool} {base all part : List α}

theorem start (p : α → Bool) (base : List α) : Sifted p base base base :=
  ⟨[], (List.append_nil _).symm, (List.append_nil _).symm⟩

theorem append (h : Sifted p base all part) {more : List α} (hm : ∀ a ∈ more, p a) :
    Sifted p base (all ++ more) (part ++ more) := by
  obtain ⟨new, rfl, rfl⟩ := h
  refine ⟨new ++ more, List.append_assoc .., ?_⟩
  rw [List.filter_append, List.filter_eq_self.mpr hm, List.append_assoc]

theorem append_left (h : Sifted p base all part) {more : List α} (hm : ∀ a ∈ more, ¬ p a) :
    Sifted p base (all ++ more) part := by
  obtain ⟨new, rfl, rfl⟩ := h
  refine ⟨new ++ more, List.append_assoc .., ?_⟩
  rw [List.filter_append, List.filter_eq_nil_iff.mpr hm, List.append_nil]

theorem map {f : α → β} {q : β → Bool} (h : Sifted p base all part) (hpq : ∀ a, q (f a) = p a) :
    Sifted q (base.map f) (all.map f) (part.map f) := by
  obtain ⟨new, rfl, rfl⟩ := h
  have hcomp : q ∘ f = p := funext hpq
  exact ⟨new.map f, List.map_append, by rw [List.map_append, List.filter_map, hcomp]⟩

end Sifted

theorem Sifted.lookup_eq {listed : NameSet} {base all part : List (String × Entity)}
    (h : Sifted (·.1 ∉ listed) base all part) {n : String} (hn : n ∉ listed) :
    part.lookup n = all.lookup n := by
  obtain ⟨new, rfl, rfl⟩ := h
  rw [List.lookup_append, List.lookup_append]
  congr 1
  induction new with
  | nil => rfl
  | cons x new ih =>
    obtain ⟨m, e⟩ := x
    by_cases hm : m ∈ listed
    · have hnm : (n == m) = false := by
        rw [beq_eq_false_iff_ne]
        rintro rfl
        exact hn hm
      rw [List.filter_cons_of_neg (by simpa using hm), List.lookup_cons, hnm, ih]
    · rw [List.filter_cons_of_pos (by simpa using hm), List.lookup_cons, List.lookup_cons, ih]

/-! ## What goes by a name of the blacklist -/

/-- Whether a diagnostic calls a definition with one of the names a duplicate. -/
def Diagnostic.isDuplicateIn (listed : NameSet) : Diagnostic → Bool
  | .duplicate _ n _ => n ∈ listed
  | _ => false

/-- Whether a warning calls a definition with one of the names a duplicate. -/
def Warning.isDuplicateIn (listed : NameSet) : Warning → Bool
  | .duplicateType n _ => n ∈ listed
  | _ => false

theorem Diagnostic.isDuplicateIn_of_missing {listed : NameSet} {x : Diagnostic}
    (h : x.kind = .missingAttribute) : x.isDuplicateIn listed = false := by
  cases x with
  | nameless | unresolved => rfl
  | blacklisted | duplicate | unhandled => cases h

namespace Candidate

variable {listed : NameSet} (c : Candidate)

theorem filter_isDuplicateIn :
    c.diagnostics.filter (!·.isDuplicateIn listed) = c.diagnostics := by
  rw [List.filter_eq_self]
  intro x hx
  rw [Diagnostic.isDuplicateIn_of_missing (kind_of_mem_diagnostics hx)]
  rfl

theorem filter_blacklisted : c.diagnostics.filter (·.kind ≠ .blacklisted) = c.diagnostics := by
  rw [List.filter_eq_self]
  intro x hx
  rw [kind_of_mem_diagnostics hx]
  rfl

end Candidate

/-! ## Registries -/

namespace Registry

/-- What an entity adds to the records. -/
def newRecords (r : Registry) (e : Entity) : List (String × Entity) :=
  if e.isRecordKind ∧ r.lookupRecord e.name = none then [(e.name, e)] else []

theorem records_recordAlso (r : Registry) (e : Entity) :
    (r.recordAlso e).records = r.records ++ r.newRecords e := by
  rw [recordAlso, newRecords, lookupRecord, insertRecord?, insertNew?]
  by_cases he : e.isRecordKind
  · cases hl : r.records.lookup e.name with
    | none => simp [he]
    | some x => simp [he]
  · simp [he]

theorem key_of_mem_newRecords {r : Registry} {e : Entity} {x : String × Entity}
    (h : x ∈ r.newRecords e) : x.1 = e.name := by
  rw [newRecords] at h
  split at h
  · rw [List.mem_singleton.mp h]
  · cases h

/-- A registry has what another one has that grew from the same entries, less what goes by some
names. -/
structure Sifts (listed : NameSet) (r all part : Registry) : Prop where
  types : Sifted (·.1 ∉ listed) r.types all.types part.types
  records : Sifted (·.1 ∉ listed) r.records all.records part.records

namespace Sifts

variable {listed : NameSet} {r all part : Registry}

theorem mem_names_iff (h : Sifts listed r all part) {n : String} (hn : n ∉ listed) :
    n ∈ part.names ↔ n ∈ all.names := by
  rw [← lookup_isSome_iff, ← lookup_isSome_iff, lookup, lookup, h.types.lookup_eq hn]

theorem register_left (h : Sifts listed r all part) {e : Entity} (he : e.name ∈ listed) :
    Sifts listed r ({ all with types := all.types ++ [(e.name, e)] }.recordAlso e) part := by
  constructor
  · rw [types_recordAlso]
    exact h.types.append_left (by simpa using he)
  · rw [records_recordAlso]
    exact h.records.append_left fun x hx => by simpa [key_of_mem_newRecords hx] using he

theorem register (h : Sifts listed r all part) {e : Entity} (he : e.name ∉ listed) :
    Sifts listed r ({ all with types := all.types ++ [(e.name, e)] }.recordAlso e)
      ({ part with types := part.types ++ [(e.name, e)] }.recordAlso e) := by
  have hnew : part.newRecords e = all.newRecords e := by
    rw [newRecords, newRecords, lookupRecord, lookupRecord, h.records.lookup_eq he]
  constructor
  · rw [types_recordAlso, types_recordAlso]
    exact h.types.append (by simpa using he)
  · -- The name is free among the records of both registries or of none.
    rw [records_recordAlso, records_recordAlso]
    change Sifted _ _ (all.records ++ all.newRecords e) (part.records ++ part.newRecords e)
    rw [hnew]
    exact h.records.append fun x hx => by simpa [key_of_mem_newRecords hx] using he

end Sifts

end Registry

/-! ## Intakes -/

/-- What an intake with a blacklist has to do with one that has none, if both began with the same
registry. -/
structure Intake.Sifts (config : Config) (r : Registry) (all part : Intake) : Prop where
  kept : part.kept = all.kept.filter (·.entity.name ∉ config.blacklist)
  registry : Registry.Sifts config.blacklist r all.registry part.registry
  diagnostics : part.diagnostics.filter (·.kind ≠ .blacklisted) =
    all.diagnostics.filter (!·.isDuplicateIn config.blacklist)
  warnings : part.warnings = all.warnings.filter (!·.isDuplicateIn config.blacklist)
  errorType : part.errorType =
    if config.errorTypeName ∈ config.blacklist then config.defaultErrorType else all.errorType

namespace Intake.Sifts

variable {config : Config} {r : Registry} {all part : Intake} {c : Candidate}

theorem start : Sifts config r ⟨r, [], [], [], config.defaultErrorType⟩
    ⟨r, [], [], [], config.defaultErrorType⟩ where
  kept := rfl
  registry := ⟨.start _ _, .start _ _⟩
  diagnostics := rfl
  warnings := rfl
  errorType := (ite_self _).symm

theorem diagnostics_append (h : Sifts config r all part) (c : Candidate) {xs ys : List Diagnostic}
    (hxy : ys.filter (·.kind ≠ .blacklisted) = xs.filter (!·.isDuplicateIn config.blacklist)) :
    (part.diagnostics ++ c.diagnostics ++ ys).filter (·.kind ≠ .blacklisted) =
      (all.diagnostics ++ c.diagnostics ++ xs).filter (!·.isDuplicateIn config.blacklist) := by
  rw [List.filter_append, List.filter_append, h.diagnostics, c.filter_blacklisted, hxy,
    List.filter_append, List.filter_append, c.filter_isDuplicateIn]

theorem warnings_append (h : Sifts config r all part) {xs ys : List Warning}
    (hxy : ys = xs.filter (!·.isDuplicateIn config.blacklist)) :
    part.warnings ++ ys = (all.warnings ++ xs).filter (!·.isDuplicateIn config.blacklist) := by
  rw [List.filter_append, h.warnings, hxy]

/-- A blacklisted candidate is noticed by the one intake. The other one keeps it or calls it a
duplicate. -/
theorem take_of_blacklisted (h : Sifts config r all part) (hb : c.name ∈ config.blacklist) :
    Sifts config r (all.take config.unlisted c) (part.take config c) := by
  have hfree : c.name ∉ config.unlisted.blacklist := NameSet.not_mem_empty _
  have hbe : c.entity.value.name ∈ config.blacklist := c.name_entity.symm ▸ hb
  rw [Intake.take_of_blacklisted hb]
  by_cases hn : c.name ∈ all.registry.names
  · rw [take_of_taken hfree hn]
    refine ⟨h.kept, h.registry, h.diagnostics_append c ?_, ?_, h.errorType⟩
    · simp [Diagnostic.isDuplicateIn, Diagnostic.kind, hb]
    · have hxy : [Warning.duplicateType c.name c.category].filter
          (!·.isDuplicateIn config.blacklist) = [] := by simp [Warning.isDuplicateIn, hb]
      exact (List.append_nil _).symm.trans (h.warnings_append hxy.symm)
  · rw [take_of_new hfree hn]
    refine ⟨?_, h.registry.register_left hbe, ?_, h.warnings, ?_⟩
    · change part.kept = (all.kept ++ [_]).filter _
      rw [List.filter_append, ← h.kept]
      simp [hbe]
    · exact (h.diagnostics_append c rfl).trans (by rw [List.append_nil]; rfl)
    · -- If the entity gives the error type, the name of error types is blacklisted.
      change part.errorType = if _ then _ else if _ then _ else _
      rw [h.errorType]
      by_cases hname : c.entity.value.name = config.errorTypeName
      · rw [if_pos (hname ▸ hbe), if_pos (hname ▸ hbe)]
      · exact congrArg (ite _ _) (if_neg hname).symm

/-- A candidate that is not blacklisted has the same fate in both intakes. -/
theorem take_of_not_blacklisted (h : Sifts config r all part) (hb : c.name ∉ config.blacklist) :
    Sifts config r (all.take config.unlisted c) (part.take config c) := by
  have hfree : c.name ∉ config.unlisted.blacklist := NameSet.not_mem_empty _
  have hbe : c.entity.value.name ∉ config.blacklist := c.name_entity.symm ▸ hb
  have hnames := h.registry.mem_names_iff hb
  by_cases hn : c.name ∈ all.registry.names
  · rw [take_of_taken hb (hnames.mpr hn), take_of_taken hfree hn]
    refine ⟨h.kept, h.registry, h.diagnostics_append c ?_, h.warnings_append ?_, h.errorType⟩
    · simp [Diagnostic.isDuplicateIn, Diagnostic.kind, hb]
    · simp [Warning.isDuplicateIn, hb]
  · rw [take_of_new hb (hn ∘ hnames.mp), take_of_new hfree hn]
    refine ⟨?_, h.registry.register hbe, ?_, h.warnings, ?_⟩
    · change part.kept ++ [_] = (all.kept ++ [_]).filter _
      rw [List.filter_append, ← h.kept]
      simp [hbe]
    · have hnone : ([] : List Diagnostic).filter (·.kind ≠ .blacklisted) =
          ([] : List Diagnostic).filter (!·.isDuplicateIn config.blacklist) := rfl
      have := h.diagnostics_append c hnone
      rwa [List.append_nil, List.append_nil] at this
    · change (if _ then _ else part.errorType) = if _ then _ else if _ then _ else _
      rw [h.errorType]
      by_cases hname : c.entity.value.name = config.errorTypeName
      · rw [if_pos hname, if_neg (hname ▸ hbe)]
        exact (if_pos hname).symm
      · rw [if_neg hname]
        exact congrArg (ite _ _) (if_neg hname).symm

/-- **One more candidate.** -/
theorem take (h : Sifts config r all part) (c : Candidate) :
    Sifts config r (all.take config.unlisted c) (part.take config c) := by
  by_cases hb : c.name ∈ config.blacklist
  · exact h.take_of_blacklisted hb
  · exact h.take_of_not_blacklisted hb

theorem takeAll (h : Sifts config r all part) (cs : List Candidate) :
    Sifts config r (all.takeAll config.unlisted cs) (part.takeAll config cs) := by
  induction cs generalizing all part with
  | nil => exact h
  | cons c cs ih => exact ih (h.take c)

end Intake.Sifts

/-! ## Building -/

/-- What a build with a blacklist has to do with one that has none, if both began with the same
registry. -/
structure Built.Sifts (config : Config) (r : Registry) (all part : Built) : Prop where
  source : part.model.source = all.model.source
  space : part.model.space = all.model.space
  identifierPrefixes : part.model.identifierPrefixes = all.model.identifierPrefixes
  symbolPrefixes : part.model.symbolPrefixes = all.model.symbolPrefixes
  kept : part.model.kept = all.model.kept.filter (·.entity.name ∉ config.blacklist)
  types : part.model.types = all.model.types.filter (·.name ∉ config.blacklist)
  registry : Registry.Sifts config.blacklist r all.registry part.registry
  names : Sifted (· ∉ config.blacklist) r.names all.registry.names part.registry.names
  missing : part.model.diagnostics.filter (·.kind = .missingAttribute) =
    all.model.diagnostics.filter (·.kind = .missingAttribute)
  duplicates : part.model.diagnostics.filter (·.kind = .duplicateDefinition) =
    (all.model.diagnostics.filter (·.kind = .duplicateDefinition)).filter
      (·.name?.all (· ∉ config.blacklist))
  errorType : part.model.errorType =
    if config.errorTypeName ∈ config.blacklist then config.defaultErrorType
    else all.model.errorType
  lookup : ∀ n ∉ config.blacklist, part.registry.lookup n = all.registry.lookup n
  lookupRecord : ∀ n ∉ config.blacklist,
    part.registry.lookupRecord n = all.registry.lookupRecord n

section

variable {config : Config} {r : Registry} {all part : Intake}

theorem Intake.Sifts.filter_kind (h : Intake.Sifts config r all part) {k : DiagnosticKind}
    (hk : k ≠ .blacklisted) :
    part.diagnostics.filter (·.kind = k) =
      (all.diagnostics.filter (·.kind = k)).filter (!·.isDuplicateIn config.blacklist) := by
  have hpart : (part.diagnostics.filter (·.kind ≠ .blacklisted)).filter (·.kind = k) =
      part.diagnostics.filter (·.kind = k) := by
    rw [List.filter_filter]
    refine List.filter_congr fun x _ => ?_
    by_cases hx : x.kind = k
    · simp [hx, hk]
    · simp [hx]
  rw [← hpart, h.diagnostics, List.filter_filter, List.filter_filter]
  exact List.filter_congr fun x _ => Bool.and_comm ..

theorem Built.sifts_ofIntake (h : Intake.Sifts config r all part) (d : Document)
    (header : Header) : Sifts config r (.ofIntake d header all) (.ofIntake d header part) where
  source := rfl
  space := rfl
  identifierPrefixes := rfl
  symbolPrefixes := rfl
  kept := h.kept
  types := by
    change part.kept.map (·.entity) = (all.kept.map (·.entity)).filter _
    rw [h.kept, List.filter_map]
    rfl
  registry := h.registry
  names := h.registry.types.map fun _ => rfl
  missing := by
    change part.diagnostics.filter _ = all.diagnostics.filter _
    rw [h.filter_kind (by decide), List.filter_eq_self]
    intro x hx
    rw [Diagnostic.isDuplicateIn_of_missing (by simpa using (List.mem_filter.mp hx).2)]
    rfl
  duplicates := by
    change part.diagnostics.filter _ = (all.diagnostics.filter _).filter _
    rw [h.filter_kind (by decide)]
    refine List.filter_congr fun x hx => ?_
    have hkind : x.kind = .duplicateDefinition := by simpa using (List.mem_filter.mp hx).2
    cases x with
    | duplicate c n i => simp [Diagnostic.isDuplicateIn, Diagnostic.name?]
    | nameless | unresolved | blacklisted | unhandled => cases hkind
  errorType := h.errorType
  lookup := fun _ hn => h.registry.types.lookup_eq hn
  lookupRecord := fun _ hn => h.registry.records.lookup_eq hn

end

theorem Model.ofDocument_of_error {config : Config} {r : Registry} {d : Document} {e : Failure}
    (h : (ofDocument config r d).result = .error e) :
    ofDocument config.unlisted r d = ofDocument config r d ∧
      ∀ w ∈ (ofDocument config r d).warnings, w = .noNamespace d.source := by
  have hheader : Header.read? config.unlisted d = Header.read? config d := rfl
  have hprefix : config.unlisted.rootPrefix = config.rootPrefix := rfl
  cases hh : Header.read? config d with
  | error e =>
    rw [ofDocument_eq_fail hh, ofDocument_eq_fail (hheader.trans hh)]
    exact ⟨rfl, List.forall_mem_nil _⟩
  | ok header? =>
    cases hc : d.candidates config.rootPrefix with
    | error e =>
      rw [ofDocument, ofDocument, hheader, hh, hprefix, hc]
      cases header? with
      | none => exact ⟨rfl, fun w hw => List.mem_singleton.mp hw⟩
      | some header => exact ⟨rfl, List.forall_mem_nil _⟩
    | ok cs =>
      rw [ofDocument_eq hh hc] at h
      cases h

/-- **A blacklist is a filter.** Of two configurations that differ in the blacklist only, one of
which has none, both fail in the same way or both build. -/
theorem Model.blacklist_sifts (config : Config) (r : Registry) (d : Document) :
    (ofDocument config r d).warnings =
        (ofDocument config.unlisted r d).warnings.filter (!·.isDuplicateIn config.blacklist) ∧
      ((∃ e, (ofDocument config.unlisted r d).result = .error e ∧
          (ofDocument config r d).result = .error e) ∨
        ∃ all part, (ofDocument config.unlisted r d).result = .ok all ∧
          (ofDocument config r d).result = .ok part ∧ Built.Sifts config r all part) := by
  cases h : (ofDocument config r d).result with
  | error e =>
    obtain ⟨heq, hw⟩ := ofDocument_of_error h
    refine ⟨?_, .inl ⟨e, heq ▸ h, rfl⟩⟩
    rw [heq, eq_comm, List.filter_eq_self]
    intro w hm
    rw [hw w hm]
    rfl
  | ok part =>
    obtain ⟨header?, cs, hh, hc⟩ := exists_of_ofDocument h
    have hs : Intake.Sifts config r (.ofCandidates config.unlisted r cs)
        (.ofCandidates config r cs) := Intake.Sifts.start.takeAll cs
    have hheader : Header.read? config.unlisted d = .ok header? := hh
    have hcandidates : d.candidates config.unlisted.rootPrefix = .ok cs := hc
    rw [ofDocument_eq hh hc] at h ⊢
    rw [ofDocument_eq hheader hcandidates]
    refine ⟨?_, .inr ⟨_, part, rfl, rfl, ?_⟩⟩
    · have hsaid : (Header.warnings d header?).filter (!·.isDuplicateIn config.blacklist) =
          Header.warnings d header? := by cases header? <;> rfl
      rw [List.filter_append, hsaid]
      exact congrArg _ hs.warnings
    · rw [← Except.ok.inj h]
      exact Built.sifts_ofIntake hs d _

end Introspection
