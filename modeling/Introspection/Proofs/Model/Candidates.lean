import Introspection.Model.Basic
import Introspection.Proofs.Outcome
import Introspection.Proofs.Xml.PathName
import Introspection.Proofs.Xml.Selection

/-!
# The walk over a document

The candidates of a document come from one query for each category. With a prefix that is a name
they are what the document defines right below its namespaces.

* `candidatesOf`: the walk over the definitions of each category;
* `Document.definitions`: what a document defines in a category;
* **`Document.exists_of_candidates`**: the candidates are such a walk over what the queries select;
* `Document.xpath_sublist`: queries that select in document order;
* `Document.xpath_childrenPath`, `Document.query_descendantsPath`: what queries for a name select;
* **`Document.map_element_xpath`**, `Document.candidatesIn_eq_definitions`,
  `Document.candidates_eq`: the queries select what the document defines.
-/

namespace Introspection

open Xml

/-- A walk over the definitions of each category, which are counted category by category. -/
def candidatesOf (definitions : Category → List Element) : List Candidate :=
  Category.all.flatMap fun c => (definitions c).zipIdx.map fun p => ⟨c, p.1, p.2⟩

/-- The elements on the second level that have the tag of a category and the namespace of the root
element, in document order. -/
def Document.definitions (d : Document) (c : Category) : List Element :=
  ((d.tree.filter (·.level = 2)).map (·.element)).filter fun e =>
    (NameTest.qualified d.rootSpace c.tag).accepts e.name

/-! ## Queries -/

theorem accepts_qualified {space base : String} (hs : space ≠ "*") (hb : base ≠ "*") (n : Name) :
    (NameTest.qualified space base).accepts n = decide (n = ⟨space, base⟩) := by
  rw [NameTest.qualified, if_neg hs, if_neg hb]
  rfl

theorem exists_of_mapM_eq_ok {α β ε : Type} {f : α → Except ε β} {as : List α} {bs : List β}
    (h : as.mapM f = .ok bs) : ∀ a ∈ as, ∃ b, f a = .ok b := by
  induction as generalizing bs with
  | nil => nofun
  | cons a as ih =>
    rw [List.mapM_cons] at h
    cases ha : f a with
    | error e => rw [ha] at h; cases h
    | ok b =>
      cases has : as.mapM f with
      | error e => rw [ha, has] at h; cases h
      | ok bs => exact List.forall_mem_cons.mpr ⟨⟨b, ha⟩, ih has⟩

theorem mapM_eq_ok {α β ε : Type} {f : α → Except ε β} {g : α → β} {as : List α}
    (h : ∀ a ∈ as, f a = .ok (g a)) : as.mapM f = .ok (as.map g) := by
  induction as with
  | nil => rfl
  | cons a as ih =>
    rw [List.mapM_cons, h a List.mem_cons_self, ih fun b hb => h b (List.mem_cons_of_mem _ hb)]
    rfl

namespace Category

theorem mem_all (c : Category) : c ∈ all := by
  cases c <;> decide

theorem isName_tag (c : Category) : isName c.tag := by
  cases c <;> decide

end Category

namespace Document

variable {d : Document} {rootPrefix : String}

theorem candidatesIn_eq (c : Category) :
    d.candidatesIn rootPrefix c = (d.xpath (c.path rootPrefix) rootPrefix).map fun ns =>
      (ns.map (·.element)).zipIdx.map fun p => ⟨c, p.1, p.2⟩ := by
  rw [candidatesIn]
  cases d.xpath (c.path rootPrefix) rootPrefix with
  | error e => rfl
  | ok ns =>
    have hzip : (ns.map (·.element)).zipIdx.map (fun p => Candidate.mk c p.1 p.2) =
        ns.zipIdx.map fun p => ⟨c, p.1.element, p.2⟩ := by
      rw [List.zipIdx_map, List.map_map]
      rfl
    exact (congrArg Except.ok hzip).symm

/-- **The candidates are a walk over what the queries select.** -/
theorem exists_of_candidates {cs : List Candidate} (h : d.candidates rootPrefix = .ok cs) :
    ∃ selected : Category → List Node,
      (∀ c, d.xpath (c.path rootPrefix) rootPrefix = .ok (selected c)) ∧
        cs = candidatesOf fun c => (selected c).map (·.element) := by
  have hgroups : ∃ gs, Category.all.mapM (d.candidatesIn rootPrefix) = .ok gs := by
    obtain ⟨gs, hgs, -⟩ := exists_of_bind_eq_ok h
    exact ⟨gs, hgs⟩
  obtain ⟨gs, hgs⟩ := hgroups
  have hquery : ∀ c : Category, ∃ ns, d.xpath (c.path rootPrefix) rootPrefix = .ok ns := by
    intro c
    obtain ⟨g, hg⟩ := exists_of_mapM_eq_ok hgs c c.mem_all
    rw [candidatesIn_eq] at hg
    cases hx : d.xpath (c.path rootPrefix) rootPrefix with
    | error e => rw [hx] at hg; cases hg
    | ok ns => exact ⟨ns, rfl⟩
  refine ⟨fun c => (hquery c).choose, fun c => (hquery c).choose_spec, ?_⟩
  rw [candidates, mapM_eq_ok fun c _ => by
    rw [candidatesIn_eq, (hquery c).choose_spec, Except.map]] at h
  exact (Except.ok.inj h).symm

theorem exists_of_query {use path : String} {ns : List Node}
    (h : d.query use path rootPrefix = .ok ns) :
    ∃ ss, Path.read (d.prefixes rootPrefix) path = .ok ss ∧ Path.select ss ⟨d.root, 0⟩ = ns := by
  obtain ⟨ss, hread, h⟩ := exists_of_bind_eq_ok h
  split at h
  · cases h
  · exact ⟨ss, hread, Except.ok.inj h⟩

theorem query_eq {use path : String} {ss : List Path.Step}
    (hread : Path.read (d.prefixes rootPrefix) path = .ok ss) (hss : ss ≠ []) :
    d.query use path rootPrefix = .ok (Path.select ss ⟨d.root, 0⟩) := by
  have hne : ¬ss.isEmpty := by rwa [List.isEmpty_iff]
  rw [query, hread]
  exact if_neg hne

/-- A query selects in document order, each node once, if nothing but the last step of its path goes
to descendants. -/
theorem xpath_sublist {path : String} {ss : List Path.Step} {ns : List Node}
    (h : d.xpath path rootPrefix = .ok ns) (hread : Path.read (d.prefixes rootPrefix) path = .ok ss)
    (hss : ∀ t, .descendants t ∉ ss.dropLast) : ns.Sublist (Node.inclusive ⟨d.root, 0⟩) := by
  obtain ⟨ss', hread', rfl⟩ := exists_of_query h
  rw [Except.ok.inj (hread.symm.trans hread')] at hss
  exact Path.select_sublist hss _

theorem lookup_prefixes : (d.prefixes rootPrefix).lookup rootPrefix = some d.rootSpace := by
  simp [prefixes]

theorem xpath_childrenPath (hp : isName rootPrefix) {tag : String} (ht : isName tag) :
    d.xpath (Path.childrenPath rootPrefix tag) rootPrefix =
      .ok ((Node.generation 2 ⟨d.root, 0⟩).filter fun n =>
        (NameTest.qualified d.rootSpace tag).accepts n.element.name) := by
  rw [xpath, query_eq (Path.read_childrenPath hp ht lookup_prefixes) (List.cons_ne_nil _ _),
    Path.select_childrenPath]

theorem query_descendantsPath (hp : isName rootPrefix) {use tag : String} (ht : isName tag) :
    d.query use (Path.descendantsPath rootPrefix tag) rootPrefix =
      .ok ((Node.descendants ⟨d.root, 0⟩).filter fun n =>
        (NameTest.qualified d.rootSpace tag).accepts n.element.name) := by
  rw [query_eq (Path.read_descendantsPath hp ht lookup_prefixes) (List.cons_ne_nil _ _),
    Path.select_descendantsPath]

theorem definitions_eq_filter (c : Category) :
    d.definitions c = (d.root.generation 2).filter fun e =>
      (NameTest.qualified d.rootSpace c.tag).accepts e.name := by
  have hsecond : (d.tree.filter (·.level = 2)).map (·.element) = d.root.generation 2 :=
    d.map_element_filter_tree 2
  rw [definitions, hsecond]

/-- **The queries select what the document defines.** -/
theorem map_element_xpath (hp : isName rootPrefix) {c : Category} {ns : List Node}
    (h : d.xpath (c.path rootPrefix) rootPrefix = .ok ns) :
    ns.map (·.element) = d.definitions c := by
  have hselected := Except.ok.inj (h.symm.trans (xpath_childrenPath hp c.isName_tag))
  rw [hselected, definitions_eq_filter, ← Node.map_element_generation 2 ⟨d.root, 0⟩,
    List.filter_map]
  rfl

theorem candidatesIn_eq_definitions (hp : isName rootPrefix) (c : Category) :
    d.candidatesIn rootPrefix c =
      .ok ((d.definitions c).zipIdx.map fun p => ⟨c, p.1, p.2⟩) := by
  have hselected : d.xpath (c.path rootPrefix) rootPrefix = .ok _ :=
    xpath_childrenPath hp c.isName_tag
  rw [candidatesIn_eq, hselected, ← map_element_xpath hp hselected]
  rfl

theorem candidates_eq (hp : isName rootPrefix) :
    d.candidates rootPrefix = .ok (candidatesOf d.definitions) := by
  rw [candidates, mapM_eq_ok fun c _ => candidatesIn_eq_definitions hp c]
  rfl

end Document

end Introspection
