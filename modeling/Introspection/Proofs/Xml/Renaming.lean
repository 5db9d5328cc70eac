import Introspection.Proofs.Tree

/-!
# Other namespaces for the same names

A renaming puts the elements of a tree into other namespaces and their qualified attributes too.
Whatever looks at local names only does not notice.

* `Renaming`, `Renaming.renamed`: renamings, and what they make of a tree;
* `isUnbraced`: names that are no written form of a name in a namespace;
* **`Renaming.attribute?_renamed`**, `Renaming.childrenNamed_renamed`,
  `Renaming.firstChildNamed?_renamed`, `Renaming.content_renamed`: look-ups in a renamed element;
* `Renaming.placed_renamed`, `Renaming.subtree_renamed`: the elements of a renamed tree.
-/

namespace Introspection.Xml

/-- Other namespaces for those of elements and for those of attributes. A qualified attribute stays
qualified. -/
structure Renaming where
  ofElements : String → String
  ofAttributes : String → String
  qualified : ∀ space, space ≠ "" → ofAttributes space ≠ ""

/-- Whether a name is no written form of a name in a namespace. -/
def isUnbraced (name : String) : Bool := name.toList.head? != some '\x7b'

theorem Name.raw_eq_iff {n : Name} {name : String} (h : isUnbraced name) :
    n.raw = name ↔ n.space = "" ∧ n.base = name := by
  rw [raw]
  by_cases hs : n.space = ""
  · rw [if_pos hs]
    exact (and_iff_right hs).symm
  · rw [if_neg hs]
    refine iff_of_false ?_ fun hn => hs hn.1
    rintro rfl
    simp [isUnbraced] at h

namespace Renaming

variable (ρ : Renaming)

/-- An attribute in its other namespace, if it is in one at all. -/
def renamedAttribute (a : Attribute) : Attribute :=
  if a.name.space = "" then a else { a with name.space := ρ.ofAttributes a.name.space }

/-- A tree with all its names in their other namespaces. -/
def renamed : Element → Element
  | ⟨name, attributes, text, children, tail⟩ =>
    ⟨⟨ρ.ofElements name.space, name.base⟩, attributes.map ρ.renamedAttribute, text, row children,
      tail⟩
where
  row : List Element → List Element
    | [] => []
    | e :: es => renamed e :: row es

theorem row_eq_map (es : List Element) : renamed.row ρ es = es.map ρ.renamed := by
  induction es with
  | nil => rfl
  | cons e es ih => rw [renamed.row, ih, List.map_cons]

section

variable (e : Element)

@[simp] theorem name_renamed : (ρ.renamed e).name = ⟨ρ.ofElements e.name.space, e.name.base⟩ := by
  cases e
  rw [renamed]

@[simp] theorem tag_renamed : (ρ.renamed e).tag = e.tag := by
  rw [Element.tag, name_renamed]
  rfl

theorem attributes_renamed :
    (ρ.renamed e).attributes = e.attributes.map ρ.renamedAttribute := by
  cases e
  rw [renamed]

@[simp] theorem children_renamed : (ρ.renamed e).children = e.children.map ρ.renamed := by
  cases e
  rw [renamed, row_eq_map]

theorem tail_renamed : (ρ.renamed e).tail = e.tail := by
  cases e
  rw [renamed]

end

/-! ## Look-ups -/

theorem value_renamedAttribute (a : Attribute) : (ρ.renamedAttribute a).value = a.value := by
  rw [renamedAttribute]
  split <;> rfl

theorem base_renamedAttribute (a : Attribute) :
    (ρ.renamedAttribute a).name.base = a.name.base := by
  rw [renamedAttribute]
  split <;> rfl

theorem space_renamedAttribute_eq_iff (a : Attribute) :
    (ρ.renamedAttribute a).name.space = "" ↔ a.name.space = "" := by
  rw [renamedAttribute]
  split
  · rfl
  · rename_i h
    exact iff_of_false (ρ.qualified _ h) h

/-- **Attributes are found by their local names.** -/
theorem attribute?_renamed {name : String} (h : isUnbraced name) (e : Element) :
    (ρ.renamed e).attribute? name = e.attribute? name := by
  have hraw : (fun a : Attribute => a.name.raw == name) ∘ ρ.renamedAttribute =
      fun a => a.name.raw == name := by
    funext a
    rw [Function.comp_apply, Bool.eq_iff_iff, beq_iff_eq, beq_iff_eq, Name.raw_eq_iff h,
      Name.raw_eq_iff h, space_renamedAttribute_eq_iff, base_renamedAttribute]
  have hlocal : (fun a : Attribute => a.name.space != "" && a.name.base == name) ∘
      ρ.renamedAttribute = fun a => a.name.space != "" && a.name.base == name := by
    funext a
    rw [Function.comp_apply, base_renamedAttribute, Bool.eq_iff_iff, Bool.and_eq_true,
      Bool.and_eq_true, bne_iff_ne, bne_iff_ne, ne_eq, ne_eq, space_renamedAttribute_eq_iff]
  have hvalue : (·.value) ∘ ρ.renamedAttribute = (·.value) := funext ρ.value_renamedAttribute
  rw [Element.attribute?, Element.attribute?, attributes_renamed, List.find?_map, List.find?_map,
    hraw, hlocal, Option.map_map, hvalue]
  cases e.attributes.find? fun a => a.name.raw == name with
  | none => rfl
  | some a => exact congrArg some (ρ.value_renamedAttribute a)

theorem attributeD_renamed {name : String} (h : isUnbraced name) (e : Element) :
    (ρ.renamed e).attributeD name = e.attributeD name := by
  rw [Element.attributeD, ρ.attribute?_renamed h, Element.attributeD]

theorem tag_comp_renamed (name : String) :
    (fun e : Element => e.tag == name) ∘ ρ.renamed = fun e => e.tag == name := by
  funext e
  rw [Function.comp_apply, tag_renamed]

@[simp] theorem childrenNamed_renamed (e : Element) (name : String) :
    (ρ.renamed e).childrenNamed name = (e.childrenNamed name).map ρ.renamed := by
  rw [Element.childrenNamed, children_renamed, List.filter_map, tag_comp_renamed,
    Element.childrenNamed]

@[simp] theorem firstChildNamed?_renamed (e : Element) (name : String) :
    (ρ.renamed e).firstChildNamed? name = (e.firstChildNamed? name).map ρ.renamed := by
  rw [Element.firstChildNamed?, children_renamed, List.find?_map, tag_comp_renamed,
    Element.firstChildNamed?]

mutual

@[simp] theorem content_renamed : ∀ e : Element, (ρ.renamed e).content = e.content
  | ⟨_, _, text, children, _⟩ => by
    rw [renamed, Element.content, Element.content, contents_renamed children]

theorem contents_renamed : ∀ es : List Element,
    Element.content.contents (renamed.row ρ es) = Element.content.contents es
  | [] => rfl
  | e :: es => by
    rw [renamed.row, Element.content.contents, Element.content.contents, content_renamed e,
      tail_renamed, contents_renamed es]

end

/-! ## Trees -/

/-- An element with its depth, renamed. -/
def renamedPlaced (p : Placed) : Placed := ⟨ρ.renamed p.element, p.level⟩

mutual

theorem placed_renamed (level : Int) :
    ∀ e : Element, (ρ.renamed e).placed level = (e.placed level).map ρ.renamedPlaced
  | ⟨_, _, _, children, _⟩ => by
    rw [Element.placed, List.map_cons, ← placedRow_renamed (level + 1) children, renamed,
      Element.placed, renamedPlaced, renamed]

theorem placedRow_renamed (level : Int) : ∀ es : List Element,
    Element.placed.placedRow level (renamed.row ρ es) =
      (Element.placed.placedRow level es).map ρ.renamedPlaced
  | [] => rfl
  | e :: es => by
    rw [renamed.row, Element.placed.placedRow, Element.placed.placedRow, List.map_append,
      placed_renamed level e, placedRow_renamed level es]

end

mutual

theorem subtree_renamed :
    ∀ e : Element, (ρ.renamed e).subtree = e.subtree.map ρ.renamed
  | ⟨_, _, _, children, _⟩ => by
    rw [Element.subtree, List.map_cons, ← subtrees_renamed children, renamed, Element.subtree]

theorem subtrees_renamed : ∀ es : List Element,
    Element.subtree.subtrees (renamed.row ρ es) = (Element.subtree.subtrees es).map ρ.renamed
  | [] => rfl
  | e :: es => by
    rw [renamed.row, Element.subtree.subtrees, Element.subtree.subtrees, List.map_append,
      subtree_renamed e, subtrees_renamed es]

end

end Renaming

end Introspection.Xml
