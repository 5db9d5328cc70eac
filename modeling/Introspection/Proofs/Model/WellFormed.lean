import Introspection.Proofs.Entity.Parts
import Introspection.Proofs.Model.First
import Introspection.Proofs.Xml.PathEnd

/-!
# Well-formed models

Whatever a document holds and whatever the queries begin with, the entities of a model are well
formed in all their parts.

* `Document.tag_suffix_of_xpath`: the tags of what the queries select;
* `exists_of_mem_candidatesOf`: where a candidate comes from;
* `Model.WellFormed`: what holds of a model;
* **`Model.wellFormed_ofDocument`**: every model that is built is well formed.
-/

namespace Introspection

open Xml

/-- The queries select elements whose tags end with that of the category. -/
theorem Document.tag_suffix_of_xpath {d : Document} {rootPrefix : String} {c : Category}
    {ns : List Node} {n : Node} (h : d.xpath (c.path rootPrefix) rootPrefix = .ok ns)
    (hn : n ∈ ns) : c.tag.toList <:+ n.element.tag.toList := by
  obtain ⟨ss, hread, rfl⟩ := exists_of_query h
  exact Path.tag_suffix_of_select c.isName_tag rfl hread hn

theorem Document.tag_ne_of_xpath {d : Document} {rootPrefix : String} {c : Category}
    {ns : List Node} {n : Node} (h : d.xpath (c.path rootPrefix) rootPrefix = .ok ns)
    (hn : n ∈ ns) : n.element.tag ≠ "array" := by
  intro htag
  have hsuffix := tag_suffix_of_xpath h hn
  rw [htag] at hsuffix
  revert hsuffix
  cases c <;> decide

theorem exists_of_mem_candidatesOf {selected : Category → List Node} {c : Candidate}
    (h : c ∈ candidatesOf fun c => (selected c).map (·.element)) :
    ∃ n, (selected c.category)[c.index]? = some n ∧ n.element = c.element := by
  obtain ⟨category, -, hc⟩ := List.mem_flatMap.mp h
  obtain ⟨⟨e, i⟩, he, rfl⟩ := List.mem_map.mp hc
  rw [List.mem_zipIdx_iff_getElem?, List.getElem?_map] at he
  exact Option.map_eq_some_iff.mp he

namespace Model

/-- What holds of a model of a document. -/
structure WellFormed (config : Config) (d : Document) (m : Model) : Prop where
  /-- Each entity is that of an element which a query selects, with its position among those that
  the same query selects, and all its parts are well formed. -/
  parts : ∀ k ∈ m.kept, ∃ (ns : List Node) (n : Node) (i : Nat),
    d.xpath (k.category.path config.rootPrefix) config.rootPrefix = .ok ns ∧ ns[i]? = some n ∧
      k.entity = (k.category.entity n.element i).value ∧
      ∀ x, Relation.ReflTransGen Part.Below ⟨k.entity, .definition i, some n.element⟩ x →
        x.WellFormed
  kind?_eq : ∀ c, ∀ e ∈ m.inCategory c, e.kind? = some c.kind
  /-- The error type is that of the options, or the written type of the entity with its name. -/
  errorType : m.errorType = config.defaultErrorType ∨
    ∃ e ∈ m.types, e.name = config.errorTypeName ∧ e.type? = some (.written m.errorType)

variable {config : Config} {r : Registry} {d : Document} {b : Built}

theorem exists_of_mem_kept (h : (ofDocument config r d).result = .ok b) {k : Kept}
    (hk : k ∈ b.model.kept) :
    ∃ (ns : List Node) (n : Node) (i : Nat),
      d.xpath (k.category.path config.rootPrefix) config.rootPrefix = .ok ns ∧ ns[i]? = some n ∧
        k.entity = (k.category.entity n.element i).value := by
  obtain ⟨header?, cs, hh, hc⟩ := exists_of_ofDocument h
  rw [ofDocument_eq hh hc] at h
  rw [← Except.ok.inj h] at hk
  change k ∈ (Intake.ofCandidates config r cs).kept at hk
  rw [(Intake.follows_ofCandidates config r cs).kept] at hk
  obtain ⟨c, hmem, rfl⟩ := exists_of_mem_keptOf hk
  obtain ⟨selected, hs, rfl⟩ := Document.exists_of_candidates hc
  obtain ⟨n, hn, he⟩ := exists_of_mem_candidatesOf hmem
  exact ⟨_, n, c.index, hs c.category, hn, by rw [he]; rfl⟩

theorem errorType_ofDocument (h : (ofDocument config r d).result = .ok b) :
    b.model.errorType = errorTypeOf config b.model.kept := by
  obtain ⟨header?, cs, hh, hc⟩ := exists_of_ofDocument h
  rw [ofDocument_eq hh hc] at h
  rw [← Except.ok.inj h]
  exact (Intake.follows_ofCandidates config r cs).errorType

/-- **Every model that is built is well formed.** This does not depend on the markup, on the options
or on what the registry knows before. -/
theorem wellFormed_ofDocument (h : (ofDocument config r d).result = .ok b) :
    b.model.WellFormed config d := by
  refine ⟨fun k hk => ?_, fun c e he => ?_, ?_⟩
  · obtain ⟨ns, n, i, hns, hn, he⟩ := exists_of_mem_kept h hk
    refine ⟨ns, n, i, hns, hn, he, fun x hx => ?_⟩
    rw [he] at hx
    exact Part.wellFormed_of_below
      (Document.tag_ne_of_xpath hns (List.mem_of_getElem? hn)) hx
  · obtain ⟨k, hk, rfl⟩ := List.mem_map.mp he
    obtain ⟨hk, hcategory⟩ := List.mem_filter.mp hk
    obtain ⟨_, n, i, -, -, he⟩ := exists_of_mem_kept h hk
    rw [he, Category.kind?_entity, of_decide_eq_true hcategory]
  · have htype := errorType_ofDocument h
    rw [errorTypeOf] at htype
    split at htype
    · rename_i k hfind
      have hk := List.mem_of_find?_eq_some hfind
      obtain ⟨_, n, i, -, -, he⟩ := exists_of_mem_kept h hk
      obtain ⟨s, hs⟩ := k.category.type?_entity n.element i
      rw [← he] at hs
      refine .inr ⟨k.entity, List.mem_map_of_mem hk, ?_, ?_⟩
      · simpa using List.find?_some hfind
      · rw [htype, hs]
        rfl
    · exact .inl htype

/-- A document with an alias that lacks its native type and a record with a function that lacks its
name and returns an array without a type. -/
def sparse : String :=
  "<repository xmlns=\"u\"><namespace><alias name=\"A\"/><record name=\"R\"><function>" ++
    "<return-value><array/></return-value></function></record></namespace></repository>"

/-- Both definitions are kept, and all that is below them is well formed. -/
theorem wellFormed_of_sparse :
    ∃ d b, Document.loadText sparse = .ok (some d) ∧
      (ofDocument {} .empty d).result = .ok b ∧ b.model.WellFormed {} d ∧
      b.model.types.map Entity.name = ["A", "R"] := by
  have hok : (Document.loadText sparse).toOption.join.bind (fun d =>
      (ofDocument {} .empty d).result.toOption.map fun b => b.model.types.map Entity.name) =
      some ["A", "R"] := by decide +kernel
  obtain ⟨d, hd, hok⟩ := Option.bind_eq_some_iff.mp hok
  obtain ⟨b, hb, hmodel⟩ := Option.map_eq_some_iff.mp hok
  have hb := eq_ok_of_toOption hb
  exact ⟨d, b, eq_ok_of_toOption (Option.join_eq_some_iff.mp hd), hb, wellFormed_ofDocument hb,
    hmodel⟩

end Model

end Introspection
