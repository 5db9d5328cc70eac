import Introspection.Proofs.Model.Nameless
import Introspection.Proofs.Model.Order
import Introspection.Proofs.Xml.Renaming

/-!
# Builds that fail

A build that fails does so before it takes in the first definition. So it leaves the registry as it
was, and documents that share a registry are not affected by one of them that cannot be built.

* `Xml.Element.isSome_attribute?_iff`, `Header.ofElement_eq_error_iff`: when what an element says
  about its namespace cannot be read;
* `Document.heading?_eq`, `Header.read?_of_empty`: the element in question, and queries without a
  prefix;
* `Document.FailsWith`: the documents that cannot be built;
* `Work`, `Work.run`: the work on a document step by step, with what is left of it when it breaks
  off;
* `Work.run_of_ok`, `Work.run_of_error`: how the work goes;
* `ModelSet.ofFiles_of_error`: documents behind one that cannot be built;
* **`Model.builds_atomically`**: when builds fail and what they leave behind.
-/

namespace Introspection

open Xml

/-! ## Headers that cannot be read -/

namespace Xml.Element

/-- An element has an attribute if it has one with that local name in any namespace or in none. -/
theorem isSome_attribute?_iff {name : String} (h : isUnbraced name) (e : Element) :
    (e.attribute? name).isSome ↔ ∃ a ∈ e.attributes, a.name.base = name := by
  rw [attribute?]
  cases hplain : e.attributes.find? (·.name.raw == name) with
  | some a =>
    have hraw : a.name.raw = name := by simpa using List.find?_some hplain
    refine iff_of_true rfl ⟨a, List.mem_of_find?_eq_some hplain, ?_⟩
    exact ((Name.raw_eq_iff h).mp hraw).2
  | none =>
    simp only [Option.isSome_map, List.find?_isSome, Bool.and_eq_true, bne_iff_ne, beq_iff_eq]
    constructor
    · rintro ⟨a, ha, -, hbase⟩
      exact ⟨a, ha, hbase⟩
    · rintro ⟨a, ha, hbase⟩
      -- Without a namespace, the attribute would have been found before.
      refine ⟨a, ha, fun hspace => ?_, hbase⟩
      have hraw := List.find?_eq_none.mp hplain a ha
      exact hraw (beq_iff_eq.mpr ((Name.raw_eq_iff h).mpr ⟨hspace, hbase⟩))

/-- An element lists prefixes in an attribute. -/
def ListsPrefixes (e : Element) : Prop :=
  ∃ a ∈ e.attributes, a.name.base = "identifier-prefixes" ∨ a.name.base = "symbol-prefixes"

theorem listsPrefixes_iff (e : Element) :
    e.ListsPrefixes ↔ (e.attribute? "identifier-prefixes").isSome ∨
      (e.attribute? "symbol-prefixes").isSome := by
  rw [isSome_attribute?_iff (by decide), isSome_attribute?_iff (by decide), ← exists_or]
  simp only [← and_or_left]
  rfl

end Xml.Element

theorem Header.ofElement_eq_error_iff {delimiter : String} {e : Element} {f : Failure} :
    ofElement delimiter e = .error f ↔
      delimiter = "" ∧ f = .emptyDelimiter ∧ e.ListsPrefixes := by
  have hlists : delimiter = "" ∧ f = .emptyDelimiter ∧ e.ListsPrefixes ↔
      e.subAttributes "identifier-prefixes" delimiter = .error f ∨
        e.subAttributes "symbol-prefixes" delimiter = .error f := by
    rw [Element.listsPrefixes_iff, Element.subAttributes_eq_error_iff,
      Element.subAttributes_eq_error_iff, ← and_or_left, ← and_or_left]
  rw [hlists, ofElement]
  cases hfirst : e.subAttributes "identifier-prefixes" delimiter with
  | error g =>
    obtain ⟨-, rfl, -⟩ := Element.subAttributes_eq_error_iff.mp hfirst
    change Except.error Failure.emptyDelimiter = Except.error f ↔ _
    rw [Except.error.injEq, Except.error.injEq]
    refine ⟨.inl, fun h => h.elim id fun hsecond => ?_⟩
    -- Both lists fail in the same way.
    exact (Element.subAttributes_eq_error_iff.mp hsecond).2.1.symm
  | ok is =>
    rw [or_iff_right (by simp)]
    cases e.subAttributes "symbol-prefixes" delimiter with
    | error g =>
      change Except.error g = Except.error f ↔ _
      rw [Except.error.injEq, Except.error.injEq]
    | ok ss =>
      change Except.ok _ = Except.error f ↔ _
      simp

namespace Document

variable {d : Document}

theorem heading?_eq (hd : d.rootSpace ≠ "*") :
    d.heading? =
      (d.tree.tail.find? (·.element.name = ⟨d.rootSpace, "namespace"⟩)).map (·.element) := by
  rw [heading?, tree_eq_placed, Element.placed_eq, List.tail_cons,
    ← Element.map_element_placedRow 1, List.find?_map]
  simp only [accepts_qualified hd (by decide : "namespace" ≠ "*")]
  rfl

/-- The document cannot be built. Without a prefix there are no queries, and without a delimiter
the lists in its `namespace` element cannot be cut. -/
def FailsWith (config : Config) (d : Document) (f : Failure) : Prop :=
  if config.rootPrefix = "" then f = .unnamedDescendants
  else
    config.delimiter = "" ∧ f = .emptyDelimiter ∧
      ∃ p, d.tree.tail.find? (·.element.name = ⟨d.rootSpace, "namespace"⟩) = some p ∧
        p.element.ListsPrefixes

end Document

theorem Header.read?_of_empty {config : Config} (hp : config.rootPrefix = "") (d : Document) :
    read? config d = .error .unnamedDescendants := by
  rw [read?, hp]
  rfl

theorem Header.isName_of_read? {config : Config} {d : Document}
    (hp : config.rootPrefix = "" ∨ isName config.rootPrefix) {header? : Option Header}
    (h : read? config d = .ok header?) : isName config.rootPrefix := by
  refine hp.resolve_left fun hempty => ?_
  rw [read?_of_empty hempty] at h
  cases h

theorem Header.read?_eq_error_iff {config : Config} {d : Document} (hd : d.rootSpace ≠ "*")
    (hp : config.rootPrefix = "" ∨ isName config.rootPrefix) {f : Failure} :
    read? config d = .error f ↔ d.FailsWith config f := by
  rw [Document.FailsWith]
  split
  · rename_i hempty
    rw [read?_of_empty hempty, Except.error.injEq, eq_comm]
  · rename_i hempty
    rw [read?_eq (hp.resolve_left hempty), Document.heading?_eq hd]
    cases d.tree.tail.find? (·.element.name = ⟨d.rootSpace, "namespace"⟩) with
    | none => exact iff_of_false nofun nofun
    | some p =>
      have hmap : (ofElement config.delimiter p.element).map some = .error f ↔
          ofElement config.delimiter p.element = .error f := by
        cases ofElement config.delimiter p.element <;> simp [Except.map]
      simp only [Option.map_some, Option.some.injEq, exists_eq_left']
      rw [hmap, ofElement_eq_error_iff]

/-! ## Work step by step -/

/-- The work on a document as far as it has come. The registry is shared with whoever handed it
out, so it is left as it is when the work breaks off. -/
structure Work where
  /-- What the document says about its namespace. -/
  header : Header := {}
  /-- What has been said before the first definition. -/
  said : List Warning := []
  /-- The definitions from which entities have been built. -/
  taken : List Candidate := []
  intake : Intake
  /-- What the work has broken off with. -/
  failure : Option Failure := none

namespace Work

variable {config : Config} {r : Registry} {d : Document}

/-- Work that has not begun. -/
def fresh (config : Config) (r : Registry) : Work where
  intake := ⟨r, [], [], [], config.defaultErrorType⟩

/-- Goes on with the header of the document, if it can be read. -/
def withHeader (d : Document) (w : Work) : Except Failure (Option Header) → Work
  | .error e => { w with failure := some e }
  | .ok header? => { w with header := header?.getD {}, said := Header.warnings d header? }

/-- Takes in definitions, one after the other. -/
def takeIn (config : Config) (w : Work) (cs : List Candidate) : Work :=
  { w with taken := w.taken ++ cs, intake := w.intake.takeAll config cs }

/-- Takes in the definitions of a category. -/
def collect (config : Config) (d : Document) (w : Work) (c : Category) : Work :=
  if w.failure.isSome then w
  else
    match d.candidatesIn config.rootPrefix c with
    | .error e => { w with failure := some e }
    | .ok cs => w.takeIn config cs

/-- The header first, and then category by category. -/
def run (config : Config) (r : Registry) (d : Document) : Work :=
  Category.all.foldl (collect config d) ((fresh config r).withHeader d (Header.read? config d))

/-- What the work on a document gives in the end. -/
def outcome (w : Work) (d : Document) : Outcome Built where
  warnings := w.said ++ w.intake.warnings
  result := w.failure.elim (.ok (.ofIntake d w.header w.intake)) .error

theorem foldl_collect_of_failure {w : Work} (h : w.failure.isSome) (cs : List Category) :
    cs.foldl (collect config d) w = w := by
  refine List.foldl_fixed' (fun c => ?_) cs
  rw [collect, if_pos h]

theorem takeIn_takeIn (w : Work) (as bs : List Candidate) :
    (w.takeIn config as).takeIn config bs = w.takeIn config (as ++ bs) := by
  simp only [takeIn, Intake.takeAll, List.append_assoc, List.foldl_append]

/-- **Categories whose definitions are found are taken in.** -/
theorem foldl_collect {w : Work} (h : w.failure = none) {cs : List Category}
    {found : Category → List Candidate}
    (hfound : ∀ c ∈ cs, d.candidatesIn config.rootPrefix c = .ok (found c)) :
    cs.foldl (collect config d) w = w.takeIn config (cs.flatMap found) := by
  induction cs generalizing w with
  | nil =>
    rw [List.flatMap_nil, takeIn, List.append_nil]
    rfl
  | cons c cs ih =>
    have hcollect : collect config d w c = w.takeIn config (found c) := by
      rw [collect, if_neg (by simp [h]), hfound c List.mem_cons_self]
    have hrest := ih (w := w.takeIn config (found c)) h fun b hb =>
      hfound b (List.mem_cons_of_mem _ hb)
    rw [List.foldl_cons, hcollect, hrest, takeIn_takeIn, List.flatMap_cons]

theorem run_of_error {e : Failure} (h : Header.read? config d = .error e) :
    run config r d = { fresh config r with failure := some e } := by
  rw [run, h, withHeader, foldl_collect_of_failure rfl]

theorem run_of_ok {header? : Option Header} (h : Header.read? config d = .ok header?)
    (hp : isName config.rootPrefix) :
    run config r d =
      { header := header?.getD {}
        said := Header.warnings d header?
        taken := candidatesOf d.definitions
        intake := Intake.ofCandidates config r (candidatesOf d.definitions) } := by
  rw [run, h, withHeader,
    foldl_collect rfl fun c _ => Document.candidatesIn_eq_definitions hp c]
  rfl

end Work

namespace Model

variable {config : Config} {r : Registry} {d : Document}

/-- **The work ends in what a build gives.** -/
theorem outcome_run (hp : config.rootPrefix = "" ∨ isName config.rootPrefix) :
    (Work.run config r d).outcome d = ofDocument config r d := by
  cases hh : Header.read? config d with
  | error e =>
    rw [Work.run_of_error hh, ofDocument_eq_fail hh]
    rfl
  | ok header? =>
    have hname := Header.isName_of_read? hp hh
    rw [Work.run_of_ok hh hname, ofDocument_eq hh (Document.candidates_eq hname)]
    rfl

/-- **Building fails for the headers that cannot be read, and for nothing else.** -/
theorem ofDocument_eq_error_iff (hd : d.rootSpace ≠ "*")
    (hp : config.rootPrefix = "" ∨ isName config.rootPrefix) {e : Failure} :
    (ofDocument config r d).result = .error e ↔ d.FailsWith config e := by
  rw [← Header.read?_eq_error_iff hd hp]
  cases hh : Header.read? config d with
  | error e' =>
    rw [ofDocument_eq_fail hh]
    change Except.error e' = Except.error e ↔ _
    rw [Except.error.injEq, Except.error.injEq]
  | ok header? =>
    have hname := Header.isName_of_read? hp hh
    rw [ofDocument_eq hh (Document.candidates_eq hname)]
    exact iff_of_false nofun nofun

/-- What a build comes to, and what it leaves behind. -/
structure BuildsAtomically (config : Config) (r : Registry) (d : Document) : Prop where
  failed_iff : ∀ e, (ofDocument config r d).result = .error e ↔ d.FailsWith config e
  /-- The work on the document step by step ends in what is built. -/
  outcome : (Work.run config r d).outcome d = ofDocument config r d
  /-- If it breaks off, nothing has been registered, built or said. -/
  untouched : ∀ e, d.FailsWith config e →
    Work.run config r d = { Work.fresh config r with failure := some e } ∧
      ofDocument config r d = .fail e

theorem buildsAtomically (hd : d.rootSpace ≠ "*")
    (hp : config.rootPrefix = "" ∨ isName config.rootPrefix) (r : Registry) :
    BuildsAtomically config r d where
  failed_iff _ := ofDocument_eq_error_iff hd hp
  outcome := outcome_run hp
  untouched e he := by
    have hh := (Header.read?_eq_error_iff hd hp).mpr he
    exact ⟨Work.run_of_error hh, ofDocument_eq_fail hh⟩

end Model

/-! ## Documents in a row -/

namespace ModelSet

variable {config : Config} {r : Registry} {fs : Files}

theorem foldl_add_of_failure {s : ModelSet} (h : s.failure.isSome) (paths : List String) :
    paths.foldl (add config fs) s = s := by
  refine List.foldl_fixed' (fun path => ?_) paths
  rw [add, if_pos h]

/-- **A document that cannot be built leaves things as the documents before it have made them.** -/
theorem ofFiles_of_error {before : List String} {path : String} {d : Document} {e : Failure}
    (hbefore : (ofFiles config r fs before).failure = none)
    (hload : Document.ofFile fs path = .ok (some d))
    (hfail : Model.ofDocument config (ofFiles config r fs before).registry d = .fail e)
    (after : List String) :
    ofFiles config r fs (before ++ path :: after) =
      { ofFiles config r fs before with failure := some e } := by
  have hadd : add config fs (ofFiles config r fs before) path =
      { ofFiles config r fs before with failure := some e } := by
    have hresult : Model.ofFile config (ofFiles config r fs before).registry fs path = .fail e := by
      rw [Model.ofFile_eq, hload]
      dsimp only
      rw [hfail]
      rfl
    rw [add, if_neg (by simp [hbefore]), hresult]
    simp only [Outcome.fail, List.append_nil]
  rw [ofFiles_append, List.foldl_cons, hadd]
  exact foldl_add_of_failure rfl after

end ModelSet

/-- **Builds are atomic.** A document can be built unless there is no prefix for queries, or no
delimiter and the first `namespace` element below its root lists prefixes. If it cannot be built,
then neither has the registry been changed nor has anything been built or said; and documents that
share the registry have built on it what they would have without the one that failed. -/
theorem Model.builds_atomically {config : Config} {d : Document} (hd : d.rootSpace ≠ "*")
    (hp : config.rootPrefix = "" ∨ isName config.rootPrefix) :
    (∀ r, BuildsAtomically config r d) ∧
      ∀ r fs before path after e, (ModelSet.ofFiles config r fs before).failure = none →
        Document.ofFile fs path = .ok (some d) → d.FailsWith config e →
          ModelSet.ofFiles config r fs (before ++ path :: after) =
              { ModelSet.ofFiles config r fs before with failure := some e } ∧
            ∃ bs, BuiltInTurn config r (loadable fs before) bs
                (ModelSet.ofFiles config r fs (before ++ path :: after)).registry ∧
              (ModelSet.ofFiles config r fs (before ++ path :: after)).models =
                bs.map (·.model) := by
  refine ⟨buildsAtomically hd hp, fun r fs before path after e hbefore hload he => ?_⟩
  have hfail := ((buildsAtomically hd hp (ModelSet.ofFiles config r fs before).registry).untouched
    e he).2
  rw [ModelSet.ofFiles_of_error hbefore hload hfail after]
  exact ⟨rfl, ModelSet.exists_builtInTurn hbefore⟩

/-- A document with an empty list of prefixes. -/
def emptyList : String :=
  "<r xmlns:c='u'><namespace c:symbol-prefixes=''><alias name='B'/></namespace></r>"

/-- A document that can be built, one that cannot, and another one. -/
def interrupted : Files :=
  ((({} : Files).write (Path.ofText "a") ⟨"<r><n><alias name='A'/></n></r>".toUTF8.toList, 0⟩
    0).write (Path.ofText "b") ⟨emptyList.toUTF8.toList, 0⟩ 0).write
      (Path.ofText "c") ⟨"<r><n><alias name='C'/></n></r>".toUTF8.toList, 0⟩ 0

/-- Nothing of the second document gets into the registry, nor of the third. -/
theorem builds_atomically_of_emptyList :
    ∃ d, Document.ofFile interrupted "b" = .ok (some d) ∧ d.rootSpace ≠ "*" ∧
      (({ delimiter := "" } : Config).rootPrefix = "" ∨
        isName ({ delimiter := "" } : Config).rootPrefix) ∧
      d.FailsWith { delimiter := "" } .emptyDelimiter ∧
      Model.ofDocument { delimiter := "" } .empty d = .fail .emptyDelimiter ∧
      (ModelSet.ofFiles { delimiter := "" } .empty interrupted ["a", "b", "c"]).failure =
        some .emptyDelimiter ∧
      (ModelSet.ofFiles { delimiter := "" } .empty interrupted ["a", "b", "c"]).registry.names =
        ["A"] := by
  have hload : (Document.ofFile interrupted "b").toOption.join.any fun d =>
      decide (d.rootSpace ≠ "*") &&
        decide ((Model.ofDocument { delimiter := "" } .empty d).result.isOk = false) := by
    decide +kernel
  obtain ⟨d, hload, hok⟩ := exists_of_any_join hload
  rw [Bool.and_eq_true, decide_eq_true_eq, decide_eq_true_eq] at hok
  obtain ⟨hspace, hok⟩ := hok
  have hprefix : ({ delimiter := "" } : Config).rootPrefix = "" ∨
      isName ({ delimiter := "" } : Config).rootPrefix := by decide
  obtain ⟨hall, hseries⟩ := Model.builds_atomically hspace hprefix
  have hfails : d.FailsWith { delimiter := "" } .emptyDelimiter := by
    cases hr : (Model.ofDocument { delimiter := "" } .empty d).result with
    | ok b =>
      rw [hr] at hok
      cases hok
    | error e =>
      have he := ((hall .empty).failed_iff e).mp hr
      have hrest := he
      rw [Document.FailsWith, if_neg (by decide)] at hrest
      rwa [← hrest.2.1]
  have hfirst : (ModelSet.ofFiles { delimiter := "" } .empty interrupted ["a"]).failure = none ∧
      (ModelSet.ofFiles { delimiter := "" } .empty interrupted ["a"]).registry.names = ["A"] := by
    decide +kernel
  have hrun := (hseries .empty interrupted ["a"] "b" ["c"] _ hfirst.1 hload hfails).1
  rw [List.singleton_append] at hrun
  exact ⟨d, hload, hspace, hprefix, hfails, ((hall .empty).untouched _ hfails).2,
    congrArg ModelSet.failure hrun, (congrArg (·.registry.names) hrun).trans hfirst.2⟩

end Introspection
