import Mathlib.Data.List.Forall2
import Introspection.Proofs.Model.Loading

/-!
# The order of definitions

Definitions are read category by category, so a model depends on their order inside each category
only. What else stands between them is of no account.

* `Xml.Element.Rearranged`, `Document.Rearranged`: definitions in another order that is the same
  inside each category;
* `Document.Rearranged.heading`, `Document.Rearranged.definitions`: what a model is built from;
* `Xml.Element.described`: what a definition is read for;
* `Intake.takeAll_described`, `Header.read?_congr`: intake and header depend on nothing else;
* **`Model.ofDocument_rearranged`**: both documents have the same model.
-/

namespace Introspection

open Xml

/-! ## Documents -/

namespace Xml.Element

/-- An element without the text behind it. -/
def bare (e : Element) : Element := { e with tail := "" }

/-- A `namespace` element with other children, which hold the same definitions in the same order
inside each category. -/
structure Rearranged (space : String) (e e' : Element) : Prop where
  isNamespace : e.name = ⟨space, "namespace"⟩
  name : e'.name = e.name
  attributes : e'.attributes = e.attributes
  definitions : ∀ c : Category,
    (e'.children.filter (·.name = ⟨space, c.tag⟩)).map bare =
      (e.children.filter (·.name = ⟨space, c.tag⟩)).map bare

end Xml.Element

/-- A document some of whose namespaces have their definitions in another order. The order inside
each category is the same. -/
structure Document.Rearranged (d d' : Document) : Prop where
  source : d'.source = d.source
  name : d'.root.name = d.root.name
  children : List.Forall₂ (fun e e' => e' = e ∨ e.Rearranged d.rootSpace e')
    d.root.children d'.root.children

namespace Document

variable {d d' : Document}

theorem definitions_eq (hd : d.rootSpace ≠ "*") (c : Category) :
    d.definitions c =
      d.root.children.flatMap fun e => e.children.filter (·.name = ⟨d.rootSpace, c.tag⟩) := by
  have htag : c.tag ≠ "*" := by cases c <;> decide
  have hsecond : d.root.generation 2 = d.root.children.flatMap Element.children := by
    simp [Element.generation]
  rw [definitions_eq_filter, hsecond, List.filter_flatMap]
  simp only [accepts_qualified hd htag]

end Document

namespace Document.Rearranged

variable {d d' : Document}

theorem rootSpace (h : d.Rearranged d') : d'.rootSpace = d.rootSpace := congrArg Name.space h.name

/-- A `namespace` element is found before anything below it, so its children are of no account. -/
theorem heading (h : d.Rearranged d') (hd : d.rootSpace ≠ "*") :
    d'.heading?.map (·.attributes) = d.heading?.map (·.attributes) := by
  have hchildren := h.children
  rw [Document.heading?, Document.heading?, h.rootSpace]
  simp only [accepts_qualified hd (by decide : "namespace" ≠ "*")]
  generalize d.root.children = es, d'.root.children = es' at hchildren ⊢
  induction hchildren with
  | nil => rfl
  | cons hhead _ ih =>
    rw [Element.subtree.subtrees, Element.subtree.subtrees, List.find?_append, List.find?_append,
      Option.map_or, Option.map_or, ih]
    congr 1
    obtain rfl | hhead := hhead
    · rfl
    · rw [Element.subtree_eq, Element.subtree_eq, List.find?_cons_of_pos, List.find?_cons_of_pos,
        Option.map_some, Option.map_some, hhead.attributes]
      · exact decide_eq_true hhead.isNamespace
      · exact decide_eq_true (hhead.name.trans hhead.isNamespace)

theorem definitions (h : d.Rearranged d') (hd : d.rootSpace ≠ "*") (c : Category) :
    (d'.definitions c).map Element.bare = (d.definitions c).map Element.bare := by
  have hchildren := h.children
  rw [Document.definitions_eq (h.rootSpace ▸ hd), Document.definitions_eq hd, h.rootSpace]
  generalize d.root.children = es, d'.root.children = es' at hchildren ⊢
  induction hchildren with
  | nil => rfl
  | cons hhead _ ih =>
    rw [List.flatMap_cons, List.flatMap_cons, List.map_append, List.map_append, ih]
    congr 1
    obtain rfl | hhead := hhead
    · rfl
    · exact hhead.definitions c

end Document.Rearranged

/-! ## Building -/

/-- What a definition is read for: whether it has a name, and the entity that it describes. -/
def Xml.Element.described (e : Element) : Bool × (Category → Int → Reported Entity) :=
  ((e.attribute? "name").isSome, fun c i => c.entity e i)

theorem Xml.Element.described_bare (e : Element) : e.bare.described = e.described := by
  have hentity : ∀ (c : Category) (i : Int), c.entity e.bare i = c.entity e i := by
    intro c i
    cases c <;> rfl
  exact Prod.ext rfl (funext fun c => funext fun i => hentity c i)

/-- What a candidate is taken in for. -/
def Candidate.described (c : Candidate) :
    Category × Nat × Bool × (Category → Int → Reported Entity) :=
  (c.category, c.index, c.element.described)

theorem map_described_candidatesOf (definitions : Category → List Element) :
    (candidatesOf definitions).map Candidate.described =
      Category.all.flatMap fun c =>
        ((definitions c).map Element.described).zipIdx.map fun p => (c, p.2, p.1) := by
  rw [candidatesOf, List.map_flatMap]
  congr 1
  funext c
  rw [List.zipIdx_map, List.map_map, List.map_map]
  rfl

namespace Intake

variable {config : Config}

theorem take_described (s : Intake) {c c' : Candidate} (h : c'.described = c.described) :
    s.take config c' = s.take config c := by
  obtain ⟨hcategory, hindex, helement⟩ : c'.category = c.category ∧ c'.index = c.index ∧
    c'.element.described = c.element.described := by simpa [Candidate.described] using h
  have hnamed : c'.isNamed = c.isNamed := congrArg Prod.fst helement
  have hentity : c'.entity = c.entity := by
    rw [Candidate.entity, Candidate.entity, hcategory, hindex]
    exact congrFun (congrFun (congrArg Prod.snd helement) _) _
  rw [take, take, Candidate.diagnostics, Candidate.diagnostics, hnamed, hentity, hcategory, hindex]

theorem takeAll_described (s : Intake) {cs cs' : List Candidate}
    (h : cs'.map Candidate.described = cs.map Candidate.described) :
    s.takeAll config cs' = s.takeAll config cs := by
  induction cs generalizing s cs' with
  | nil => rw [List.map_eq_nil_iff.mp h]
  | cons c cs ih =>
    obtain ⟨c', cs', rfl, hc, hcs⟩ := List.map_eq_cons_iff.mp h
    change (s.take config c').takeAll config cs' = (s.take config c).takeAll config cs
    rw [take_described s hc, ih _ hcs]

end Intake

theorem Document.Rearranged.map_described {d d' : Document} (h : d.Rearranged d')
    (hd : d.rootSpace ≠ "*") :
    (candidatesOf d'.definitions).map Candidate.described =
      (candidatesOf d.definitions).map Candidate.described := by
  have hbare : ∀ es : List Element,
      es.map Element.described = (es.map Element.bare).map Element.described := by
    intro es
    rw [List.map_map]
    exact List.map_congr_left fun e _ => e.described_bare.symm
  rw [map_described_candidatesOf, map_described_candidatesOf]
  congr 1
  funext c
  rw [hbare, h.definitions hd, ← hbare]

namespace Header

theorem ofElement_congr {e e' : Element} (h : e'.attributes = e.attributes) (delimiter : String) :
    ofElement delimiter e' = ofElement delimiter e := by
  cases e
  cases e'
  cases h
  rfl

theorem read?_congr {config : Config} (hp : isName config.rootPrefix) {d d' : Document}
    (h : d'.heading?.map (·.attributes) = d.heading?.map (·.attributes)) :
    read? config d' = read? config d := by
  rw [read?_eq hp, read?_eq hp]
  cases hn : d.heading? with
  | none =>
    rw [hn, Option.map_none, Option.map_eq_none_iff] at h
    rw [h]
  | some e =>
    rw [hn, Option.map_some, Option.map_eq_some_iff] at h
    obtain ⟨e', hn', he'⟩ := h
    rw [hn']
    exact congrArg (Except.map some) (ofElement_congr he' config.delimiter)

end Header

/-- **Only the order inside the categories counts.** The prefix of the queries is a name, lists are
not cut at nothing, and the namespace of the root element is not the star, which would stand for any
namespace in queries. -/
theorem Model.ofDocument_rearranged {config : Config} (hp : isName config.rootPrefix)
    (hδ : config.delimiter ≠ "") {d d' : Document} (hd : d.rootSpace ≠ "*") (h : d.Rearranged d')
    (r : Registry) :
    (∃ b, (ofDocument config r d).result = .ok b) ∧
      ofDocument config r d' = ofDocument config r d := by
  obtain ⟨b, hb⟩ := exists_ofDocument hp hδ r d
  obtain ⟨header?, -, hh, -⟩ := exists_of_ofDocument hb
  have hh' : Header.read? config d' = .ok header? :=
    (Header.read?_congr hp (h.heading hd)).trans hh
  have hintake : Intake.ofCandidates config r (candidatesOf d'.definitions) =
      Intake.ofCandidates config r (candidatesOf d.definitions) :=
    Intake.takeAll_described _ (h.map_described hd)
  refine ⟨⟨b, hb⟩, ?_⟩
  rw [ofDocument_eq hh (d.candidates_eq hp), ofDocument_eq hh' (d'.candidates_eq hp), hintake,
    Header.warnings, Header.warnings, Built.ofIntake, Built.ofIntake, h.source]

/-- An element with attributes and nothing below it. -/
def Xml.Element.leaf (tag : String) (attributes : List (String × String)) : Element where
  name := ⟨"", tag⟩
  attributes := attributes.map fun (name, value) => ⟨⟨"", name⟩, value⟩
  text := ""
  children := []
  tail := ""

/-- A document with one namespace that holds the given elements. -/
def Document.ofLeaves (leaves : List Element) : Document where
  root := { Element.leaf "repository" [] with
    children := [{ Element.leaf "namespace" [("name", "N")] with children := leaves }] }
  declared := []
  source := "leaves"

/-- Two aliases, one of which has no name, with a record between them. -/
def mixedLeaves : Document :=
  .ofLeaves [.leaf "alias" [("name", "A")], .leaf "record" [("name", "R")], .leaf "alias" []]

/-- The record first, and a remark between the aliases. -/
def sortedLeaves : Document :=
  .ofLeaves [.leaf "record" [("name", "R")], .leaf "alias" [("name", "A")], .leaf "remark" [],
    .leaf "alias" []]

/-- The alias without a name is the second one in both documents, which decides its name. -/
theorem Model.ofDocument_sortedLeaves :
    mixedLeaves.rootSpace ≠ "*" ∧ mixedLeaves.Rearranged sortedLeaves ∧
      (candidatesOf mixedLeaves.definitions).map Candidate.name = ["A", "Unknown1", "R"] ∧
      (∃ b, (ofDocument {} .empty mixedLeaves).result = .ok b) ∧
      ofDocument {} .empty sortedLeaves = ofDocument {} .empty mixedLeaves := by
  have hroot : mixedLeaves.rootSpace ≠ "*" := by decide
  have h : mixedLeaves.Rearranged sortedLeaves := {
    source := rfl
    name := rfl
    children := .cons (.inr ⟨rfl, rfl, rfl, fun c => by cases c <;> rfl⟩) .nil }
  exact ⟨hroot, h, by decide, ofDocument_rearranged (by decide) (by decide) hroot h .empty⟩

end Introspection
