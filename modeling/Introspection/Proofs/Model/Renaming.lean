import Mathlib.Data.List.Find
import Mathlib.Data.Set.Function
import Mathlib.Logic.Equiv.Basic
import Introspection.Proofs.Model.First
import Introspection.Proofs.Model.Header
import Introspection.Proofs.Stub.Renaming

/-!
# Models and namespaces

Which namespaces a document uses is of no account. What counts is which of its elements share the
namespace of the root element.

* `Document.renamed`: a document with other namespaces and other declared prefixes;
* `Document.Admits`: the renamings that keep the namespaces of a document apart;
* `Document.Admits.heading?_renamed`, `Document.Admits.definitions_renamed`: the elements that a
  model is built from;
* `Intake.take_renamed`: their intake;
* **`Document.renamed_alike`**: both documents have the same model and the same stub.
-/

namespace Introspection

open Xml

/-- A document with other namespaces and other declared prefixes. -/
def Document.renamed (d : Document) (ρ : Renaming) (declared : List (String × String)) : Document :=
  { d with root := ρ.renamed d.root, declared }

/-- A renaming keeps the namespaces of the elements of a document apart. A star would stand for any
namespace in queries. -/
structure Document.Admits (d : Document) (ρ : Renaming) : Prop where
  injOn : Set.InjOn ρ.ofElements {space | ∃ e ∈ d.root.subtree, e.name.space = space}
  root_ne : d.rootSpace ≠ "*"
  renamed_ne : ρ.ofElements d.rootSpace ≠ "*"

section

variable {d : Document} {ρ : Renaming} (declared : List (String × String))

namespace Document

theorem tree_renamed : (d.renamed ρ declared).tree = d.tree.map ρ.renamedPlaced := by
  rw [tree_eq_placed, tree_eq_placed, ← ρ.placed_renamed]
  rfl

/-- **The stub of a document does not depend on namespaces.** -/
theorem stub_renamed : (d.renamed ρ declared).stub = d.stub := by
  have hstart : Stub.Walk.start .root = (Stub.Walk.start .root).renamed ρ := rfl
  rw [stub, stubLines, tree_renamed, hstart, Stub.Walk.run_renamed]
  rfl

/-! ## Queries -/

namespace Admits

variable (h : d.Admits ρ)

include h

theorem accepts_renamed {base : String} (hb : base ≠ "*") {e : Element}
    (he : e ∈ d.root.subtree) :
    (NameTest.qualified (ρ.ofElements d.rootSpace) base).accepts (ρ.renamed e).name =
      (NameTest.qualified d.rootSpace base).accepts e.name := by
  have hspace : ρ.ofElements e.name.space = ρ.ofElements d.rootSpace ↔
      e.name.space = d.rootSpace :=
    h.injOn.eq_iff ⟨e, he, rfl⟩ ⟨d.root, d.root.mem_subtree_self, rfl⟩
  rw [NameTest.qualified, NameTest.qualified, if_neg h.root_ne, if_neg h.renamed_ne, if_neg hb,
    if_neg hb, ρ.name_renamed, Bool.eq_iff_iff]
  generalize e.name = n at hspace ⊢
  cases n
  simp only [NameTest.accepts, beq_iff_eq, Name.mk.injEq, hspace]

theorem heading?_renamed :
    (d.renamed ρ declared).heading? = d.heading?.map ρ.renamed := by
  have hsub : Element.subtree.subtrees (ρ.renamed d.root).children =
      (Element.subtree.subtrees d.root.children).map ρ.renamed := by
    rw [ρ.children_renamed, ← ρ.row_eq_map, ρ.subtrees_renamed]
  have htest : ∀ e ∈ Element.subtree.subtrees d.root.children,
      (NameTest.qualified (ρ.renamed d.root).name.space "namespace").accepts (ρ.renamed e).name =
        (NameTest.qualified d.rootSpace "namespace").accepts e.name := by
    intro e he
    rw [ρ.name_renamed]
    exact h.accepts_renamed (by decide) (d.root.subtree_eq ▸ List.mem_cons_of_mem _ he)
  change (Element.subtree.subtrees (ρ.renamed d.root).children).find? _ = _
  rw [hsub, List.find?_map]
  exact congrArg _ (List.find?_congr htest)

theorem definitions_renamed (c : Category) :
    (d.renamed ρ declared).definitions c = (d.definitions c).map ρ.renamed := by
  have hmem : ∀ e ∈ (d.tree.filter (·.level = 2)).map (·.element), e ∈ d.root.subtree := by
    intro e he
    obtain ⟨p, hp, rfl⟩ := List.mem_map.mp he
    exact mem_subtree_of_mem_tree (List.mem_filter.mp hp).1
  have htest : ∀ e ∈ (d.tree.filter (·.level = 2)).map (·.element),
      (NameTest.qualified (ρ.renamed d.root).name.space c.tag).accepts (ρ.renamed e).name =
        (NameTest.qualified d.rootSpace c.tag).accepts e.name := by
    intro e he
    rw [ρ.name_renamed]
    exact h.accepts_renamed (by cases c <;> decide) (hmem e he)
  have hsecond : (((d.renamed ρ declared).tree.filter (·.level = 2)).map (·.element)) =
      ((d.tree.filter (·.level = 2)).map (·.element)).map ρ.renamed := by
    rw [tree_renamed, List.filter_map, List.map_map, List.map_map]
    rfl
  rw [definitions, hsecond, List.filter_map, definitions, ← List.filter_congr htest]
  rfl

end Admits

end Document

/-! ## Building -/

variable (ρ)

theorem Header.ofElement_renamed (delimiter : String) (e : Element) :
    ofElement delimiter (ρ.renamed e) = ofElement delimiter e := by
  simp (disch := decide) only [ofElement, Element.subAttributes, Renaming.attribute?_renamed,
    Renaming.attributeD_renamed]

/-- A candidate with its element renamed. -/
def Candidate.renamed (c : Candidate) : Candidate := { c with element := ρ.renamed c.element }

theorem candidatesOf_renamed (definitions : Category → List Element) :
    candidatesOf (fun c => (definitions c).map ρ.renamed) =
      (candidatesOf definitions).map (·.renamed ρ) := by
  rw [candidatesOf, candidatesOf, List.map_flatMap]
  congr 1
  funext c
  rw [List.zipIdx_map, List.map_map, List.map_map]
  rfl

theorem Candidate.entity_renamed (c : Candidate) : (c.renamed ρ).entity = c.entity :=
  Category.entity_renamed ρ c.element c.index c.category

theorem Candidate.diagnostics_renamed (c : Candidate) :
    (c.renamed ρ).diagnostics = c.diagnostics := by
  have hnamed : (c.renamed ρ).isNamed = c.isNamed :=
    congrArg Option.isSome (ρ.attribute?_renamed (by decide) c.element)
  rw [diagnostics, entity_renamed, hnamed]
  rfl

theorem Intake.take_renamed (config : Config) (s : Intake) (c : Candidate) :
    s.take config (c.renamed ρ) = s.take config c := by
  rw [take, c.diagnostics_renamed, c.entity_renamed]
  rfl

theorem Intake.ofCandidates_renamed (config : Config) (r : Registry) (cs : List Candidate) :
    ofCandidates config r (cs.map (·.renamed ρ)) = ofCandidates config r cs := by
  rw [ofCandidates, takeAll, List.foldl_map]
  simp only [take_renamed]
  rfl

end

/-- **Documents that differ in their namespaces only have the same model and the same stub.** The
namespaces of the elements are kept apart, and the prefixes of the queries are a name. -/
theorem Document.renamed_alike {d : Document} {ρ : Renaming} (h : d.Admits ρ) {config : Config}
    (hp : isName config.rootPrefix) (hd : config.delimiter ≠ "")
    (declared : List (String × String)) (r : Registry) :
    (∃ b, (Model.ofDocument config r d).result = .ok b) ∧
      Model.ofDocument config r (d.renamed ρ declared) = Model.ofDocument config r d ∧
      (d.renamed ρ declared).stub = d.stub := by
  -- Both readings of the header end well, and in the same way.
  obtain ⟨header?, hh, hh'⟩ : ∃ header?, Header.read? config d = .ok header? ∧
      Header.read? config (d.renamed ρ declared) = .ok header? := by
    rw [Header.read?_eq hp, Header.read?_eq hp, h.heading?_renamed]
    cases d.heading? with
    | none => exact ⟨none, rfl, rfl⟩
    | some e =>
      obtain ⟨header, he⟩ := Header.exists_ofElement hd e
      have he' := (Header.ofElement_renamed ρ config.delimiter e).trans he
      exact ⟨some header, congrArg (Except.map some) he, congrArg (Except.map some) he'⟩
  have hc := d.candidates_eq hp
  have hc' : (d.renamed ρ declared).candidates config.rootPrefix =
      .ok ((candidatesOf d.definitions).map (·.renamed ρ)) := by
    rw [candidates_eq hp, funext (h.definitions_renamed declared), candidatesOf_renamed]
  rw [Model.ofDocument_eq hh hc, Model.ofDocument_eq hh' hc', Intake.ofCandidates_renamed]
  exact ⟨⟨_, rfl⟩, rfl, stub_renamed declared⟩

/-- A document whose elements are in a namespace, and one of its attributes in another. -/
def qualifiedText : String :=
  "<g:repository xmlns:g=\"urn:gir\" xmlns:c=\"urn:c\"><g:namespace name=\"N\">" ++
    "<g:alias name=\"A\" c:type=\"int\"/><alias name=\"B\"/></g:namespace></g:repository>"

/-- Elements change places with those that are in no namespace. -/
def unqualifying : Renaming where
  ofElements := Equiv.swap "" "urn:gir"
  ofAttributes space := space ++ "#"
  qualified space h := by simp

/-- Without its prefixes, the document still has the alias that is in the namespace of its root. -/
theorem Document.unqualified_alike :
    ∃ d, Document.loadText qualifiedText = .ok (some d) ∧ d.rootSpace = "urn:gir" ∧
      d.Admits unqualifying ∧
      (d.renamed unqualifying []).rootSpace = "" ∧
      Model.ofDocument {} .empty (d.renamed unqualifying []) = Model.ofDocument {} .empty d ∧
      (d.renamed unqualifying []).stub = d.stub ∧
      ((Model.ofDocument {} .empty d).result.toOption.map fun b =>
        b.model.types.map Entity.name) = some ["A"] := by
  have hok : (Document.loadText qualifiedText).toOption.join.map (fun d =>
      (d.rootSpace, (Model.ofDocument {} .empty d).result.toOption.map fun b =>
        b.model.types.map Entity.name)) = some ("urn:gir", some ["A"]) := by decide +kernel
  obtain ⟨d, hd, hspec⟩ := Option.map_eq_some_iff.mp hok
  obtain ⟨hroot, htypes⟩ := Prod.mk.inj hspec
  have hrenamed : (d.renamed unqualifying []).rootSpace = "" := by
    rw [Document.rootSpace, Document.renamed, Renaming.name_renamed]
    change Equiv.swap "" "urn:gir" d.rootSpace = ""
    rw [hroot, Equiv.swap_apply_right]
  have hadmits : d.Admits unqualifying := {
    injOn := (Equiv.swap "" "urn:gir").injective.injOn
    root_ne := by simp [hroot]
    renamed_ne := by simp [hroot, unqualifying] }
  have hprefix : isName ({} : Config).rootPrefix := by decide
  obtain ⟨-, hmodel, hstub⟩ := Document.renamed_alike hadmits hprefix (by decide) [] .empty
  exact ⟨d, eq_ok_of_toOption (Option.join_eq_some_iff.mp hd), hroot, hadmits, hrenamed, hmodel,
    hstub, htypes⟩

end Introspection
