import Introspection.Proofs.Model.Candidates
import Introspection.Proofs.Outcome
import Introspection.Proofs.Xml.Names

/-!
# Queries and the tree

The path queries for names in the namespace of the root element select what the tree of a document
shows on the levels that the paths lead to. It does not matter what else the document binds their
prefix to.

* `Document.rootQualified`: written forms of names in the namespace of the root element;
* `Document.shown`: the elements of the tree on some levels with a written name;
* `Document.accepts_iff_raw_eq`: the queries ask for the written name;
* **`Document.queries_eq_shown`**: what the queries select.
-/

namespace Introspection

open Xml

namespace Document

/-- The written form of a name in the namespace of the root element. -/
def rootQualified (d : Document) (tag : String) : String := Name.raw ⟨d.rootSpace, tag⟩

/-- The elements of the tree on some levels with a written name, in the order of the tree. -/
def shown (d : Document) (onLevel : Int → Bool) (raw : String) : List Node :=
  (d.tree.zipIdx.filter fun x => onLevel x.1.level && x.1.element.name.raw == raw).map
    Node.ofPlaced

theorem pairwise_shown (d : Document) (onLevel : Int → Bool) (raw : String) :
    (d.shown onLevel raw).Pairwise (·.number < ·.number) := by
  have hall : d.tree.zipIdx.Pairwise (·.2 < ·.2) := by
    rw [← List.pairwise_map (f := Prod.snd) (R := (· < ·)), List.zipIdx_map_snd]
    exact List.pairwise_lt_range' 1
  exact List.pairwise_map.mpr (hall.filter _)

section Loaded

variable {source : String} {bytes : List UInt8} {d : Document}
  (h : load source bytes = .ok (some d)) (hroot : d.rootSpace ≠ "*")

include h hroot

theorem accepts_iff_raw_eq {tag : String} (htag : isName tag) {e : Element}
    (he : e ∈ d.root.subtree) :
    (NameTest.qualified d.rootSpace tag).accepts e.name = (e.name.raw == d.rootQualified tag) := by
  have hstar : tag ≠ "*" := by
    rintro rfl
    exact absurd htag (by decide)
  have hname : (Name.mk d.rootSpace tag).IsProper :=
    ⟨htag, (isProper_of_load h _ d.root.mem_subtree_self).space⟩
  rw [accepts_qualified hroot hstar, Bool.eq_iff_iff, decide_eq_true_eq, beq_iff_eq, rootQualified,
    (isProper_of_load h e he).raw_eq_iff hname]

/-- What is shown, in two steps: first the levels and then the names. -/
theorem shown_eq_filter {tag : String} (htag : isName tag) (onLevel : Int → Bool) :
    d.shown onLevel (d.rootQualified tag) =
      ((d.tree.zipIdx.filter (onLevel ·.1.level)).map Node.ofPlaced).filter fun n =>
        (NameTest.qualified d.rootSpace tag).accepts n.element.name := by
  rw [shown, List.filter_map, List.filter_filter]
  congr 1
  refine List.filter_congr fun x hx => ?_
  have hmem : x.1.element ∈ d.root.subtree :=
    mem_subtree_of_mem_tree (List.fst_mem_of_mem_zipIdx hx)
  rw [Function.comp_apply, Node.ofPlaced, accepts_iff_raw_eq h hroot htag hmem, Bool.and_comm]

/-- **The queries select what the tree shows.** Over all children, it is what is on the second
level, each element once and in the order of the tree; of all descendants, the first one is found,
if there is one at all. -/
theorem queries_eq_shown {p tag : String} (hp : isName p) (htag : isName tag) :
    d.xpath (Path.childrenPath p tag) p = .ok (d.shown (· = 2) (d.rootQualified tag)) ∧
      (d.shown (· = 2) (d.rootQualified tag)).Pairwise (·.number < ·.number) ∧
      d.findFirst? (Path.descendantsPath p "namespace") p =
        .ok (d.shown (1 ≤ ·) (d.rootQualified "namespace")).head? := by
  refine ⟨?_, d.pairwise_shown _ _, ?_⟩
  · rw [shown_eq_filter h hroot htag, xpath_childrenPath hp htag, ← filter_tree]
    rfl
  · have hnamespace : isName "namespace" := by decide
    rw [shown_eq_filter h hroot hnamespace, findFirst?, query_descendantsPath hp hnamespace,
      ← filter_below_tree]
    rfl

end Loaded

end Document

/-- A document that binds the prefix of the queries to a namespace of its own. -/
def reboundPrefix : String :=
  "<r xmlns=\"u\" xmlns:gir=\"v\"><namespace><gir:alias/><alias/></namespace><gir:namespace/></r>"

/-- The queries select elements in the namespace of the root element all the same. -/
theorem queries_of_reboundPrefix :
    ∃ d, Document.loadText reboundPrefix = .ok (some d) ∧ d.rootSpace ≠ "*" ∧
      isName "gir" ∧ isName "alias" ∧
      (d.xpath "./*/gir:alias" "gir").map (·.map (·.number)) = .ok [3] ∧
      (d.findFirst? ".//gir:namespace" "gir").map (·.map (·.number)) = .ok (some 1) := by
  have hok : (Document.loadText reboundPrefix).toOption.join.any (fun d =>
      d.rootSpace ≠ "*" &&
        (d.shown (· = 2) (d.rootQualified "alias")).map (·.number) = [3] &&
        (d.shown (1 ≤ ·) (d.rootQualified "namespace")).head?.map (·.number) = some 1) := by
    decide +kernel
  obtain ⟨d, hd, hok⟩ := exists_of_any_join hok
  rw [Bool.and_eq_true, Bool.and_eq_true, decide_eq_true_eq, decide_eq_true_eq,
    decide_eq_true_eq] at hok
  obtain ⟨⟨hroot, haliases⟩, hnamespace⟩ := hok
  have hprefix : isName "gir" := by decide
  have htag : isName "alias" := by decide
  obtain ⟨hxpath, -, hfirst⟩ := Document.queries_eq_shown hd hroot hprefix htag
  refine ⟨d, hd, hroot, hprefix, htag, ?_, ?_⟩
  · rw [show "./*/gir:alias" = Path.childrenPath "gir" "alias" by decide, hxpath, ← haliases]
    rfl
  · rw [show ".//gir:namespace" = Path.descendantsPath "gir" "namespace" by decide, hfirst,
      ← hnamespace]
    rfl

end Introspection
