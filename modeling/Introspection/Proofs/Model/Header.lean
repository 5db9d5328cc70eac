import Introspection.Proofs.Model.Candidates

/-!
# The header of a document

With a prefix that is a name, the header is what the first `namespace` element says that is below
the root element and in its namespace.

* `Document.heading?`: that element;
* `Xml.Element.subAttributes_eq_error_iff`: lists that cannot be read;
* `Header.ofElement`: what it says;
* **`Header.read?_eq`**: reading the header.
-/

namespace Introspection

open Xml

/-- The first element below the root that is a `namespace` element in the namespace of the root. -/
def Document.heading? (d : Document) : Option Element :=
  (Element.subtree.subtrees d.root.children).find? fun e =>
    (NameTest.qualified d.rootSpace "namespace").accepts e.name

theorem Xml.Element.subAttributes_eq_error_iff {e : Element} {name delimiter : String}
    {f : Failure} :
    e.subAttributes name delimiter = .error f ↔
      delimiter = "" ∧ f = .emptyDelimiter ∧ (e.attribute? name).isSome := by
  rw [subAttributes]
  cases e.attribute? name with
  | none => simp
  | some raw =>
    by_cases hd : delimiter = ""
    · simp [hd, eq_comm]
    · simp [hd]

namespace Header

/-- What an element says about the namespace. -/
def ofElement (delimiter : String) (e : Element) : Except Failure Header := do
  let identifierPrefixes ← e.subAttributes "identifier-prefixes" delimiter
  let symbolPrefixes ← e.subAttributes "symbol-prefixes" delimiter
  return { space := e.attributeD "name", identifierPrefixes, symbolPrefixes }

theorem exists_ofElement {delimiter : String} (hd : delimiter ≠ "") (e : Element) :
    ∃ h, ofElement delimiter e = .ok h := by
  have hlist : ∀ name, ∃ ps, e.subAttributes name delimiter = .ok ps := by
    intro name
    cases hps : e.subAttributes name delimiter with
    | error f => exact absurd (Element.subAttributes_eq_error_iff.mp hps).1 hd
    | ok ps => exact ⟨ps, rfl⟩
  obtain ⟨is, his⟩ := hlist "identifier-prefixes"
  obtain ⟨ss, hss⟩ := hlist "symbol-prefixes"
  exact ⟨_, by rw [ofElement, his, hss]; rfl⟩

theorem isName_namespace : isName "namespace" := by decide

theorem path_eq {rootPrefix : String} :
    path rootPrefix = Path.descendantsPath rootPrefix "namespace" := by
  have hend : ":namespace" = ":" ++ "namespace" := by decide
  rw [path, Path.descendantsPath, hend, ← String.append_assoc]

/-- **The header is what the first `namespace` element says.** -/
theorem read?_eq {config : Config} (hp : isName config.rootPrefix) (d : Document) :
    read? config d =
      match d.heading? with
      | none => .ok none
      | some e => (ofElement config.delimiter e).map some := by
  have hfind : d.findFirst? (path config.rootPrefix) config.rootPrefix =
      .ok ((Node.descendants ⟨d.root, 0⟩).filter fun n =>
        (NameTest.qualified d.rootSpace "namespace").accepts n.element.name).head? := by
    rw [path_eq, Document.findFirst?, Document.query_descendantsPath hp isName_namespace]
    rfl
  have hheading : d.heading? = ((Node.descendants ⟨d.root, 0⟩).filter fun n =>
      (NameTest.qualified d.rootSpace "namespace").accepts n.element.name).head?.map
        (·.element) := by
    rw [← List.head?_map, Document.heading?, ← List.head?_filter,
      ← Node.map_element_descendants ⟨d.root, 0⟩, List.filter_map]
    rfl
  rw [read?, hfind, hheading]
  generalize (List.filter _ _).head? = n?
  cases n? with
  | none => rfl
  | some n =>
    -- The two lists are read in the same order, and only that can fail.
    change (do
      let is ← n.element.subAttributes "identifier-prefixes" config.delimiter
      let ss ← n.element.subAttributes "symbol-prefixes" config.delimiter
      return some (Header.mk (n.element.attributeD "name") is ss)) = _
    rw [Option.map_some]
    simp only [ofElement]
    cases n.element.subAttributes "identifier-prefixes" config.delimiter <;>
      cases n.element.subAttributes "symbol-prefixes" config.delimiter <;> rfl

end Header

end Introspection
