import Introspection.Proofs.DocumentOrder

/-!
# Outlines

The outline of a tree has the tags of its elements with their depths, in document order. It tells
the tree of tags: what follows a row of elements is higher up than the row, so the outline of the
row ends where the depth falls below that of the row.

* `TagTree`, `Xml.Element.tagTree`: trees of tags;
* `TagTree.outline`: tags with their depths;
* **`TagTree.outlineRow_append_inj`**, `TagTree.outline_inj`: trees are told apart by their
  outlines;
* `Document.outline`: the outline of a document, which is that of its tree of tags;
* **`Document.tree_inDocumentOrder`**: the tree of a document is listed in document order, and its
  outline tells the tree of tags.
-/

namespace Introspection

open Xml

/-- A tree of tags. -/
inductive TagTree where
  | node (tag : String) (children : List TagTree)

namespace TagTree

/-- The tags of a tree on a level with their depths, in document order. -/
def outline (level : Int) : TagTree → List (String × Int)
  | .node tag children => (tag, level) :: outlineRow (level + 1) children
where
  /-- The tags of trees that stand next to each other on a level. -/
  outlineRow (level : Int) : List TagTree → List (String × Int)
    | [] => []
    | t :: ts => outline level t ++ outlineRow level ts

/-- If anything comes after a row, it is higher up than the row. -/
def Above (level : Int) (rest : List (String × Int)) : Prop := ∀ x ∈ rest.head?, x.2 < level

theorem not_above_outlineRow_cons (level : Int) (t : TagTree) (ts : List TagTree)
    (rest : List (String × Int)) : ¬Above level (outline.outlineRow level (t :: ts) ++ rest) := by
  intro h
  obtain ⟨tag, children⟩ := t
  exact absurd (h (tag, level) rfl) (Int.lt_irrefl level)

/-- What comes after the children in a row is not as deep as they are. -/
theorem above_outlineRow {level : Int} (ts : List TagTree) {rest : List (String × Int)}
    (h : Above level rest) : Above (level + 1) (outline.outlineRow level ts ++ rest) := by
  intro x hx
  cases ts with
  | nil =>
    have := h x hx
    omega
  | cons t ts =>
    obtain ⟨tag, children⟩ := t
    obtain rfl := Option.some.inj hx
    exact Int.lt_succ level

/-- **Rows of trees are told apart by their outlines**, whatever comes after them. -/
theorem outlineRow_append_inj {level : Int} :
    ∀ {ts us : List TagTree} {rest rest' : List (String × Int)}, Above level rest →
      Above level rest' →
      outline.outlineRow level ts ++ rest = outline.outlineRow level us ++ rest' →
      ts = us ∧ rest = rest'
  | [], [], _, _, _, _, h => ⟨rfl, h⟩
  | [], u :: us, rest, rest', hrest, _, h => by
    have h : rest = outline.outlineRow level (u :: us) ++ rest' := h
    exact absurd (h ▸ hrest) (not_above_outlineRow_cons level u us rest')
  | t :: ts, [], rest, rest', _, hrest', h => by
    have h : outline.outlineRow level (t :: ts) ++ rest = rest' := h
    exact absurd (h ▸ hrest') (not_above_outlineRow_cons level t ts rest)
  | .node t cs :: ts, .node u ds :: us, rest, rest', hrest, hrest', h => by
    simp only [outline.outlineRow, outline, List.cons_append, List.append_assoc, List.cons.injEq,
      Prod.mk.injEq, and_true] at h
    obtain ⟨htag, hbelow⟩ := h
    -- The children first, one level down, and then what comes after them.
    obtain ⟨hchildren, hafter⟩ :=
      outlineRow_append_inj (above_outlineRow ts hrest) (above_outlineRow us hrest') hbelow
    obtain ⟨hrow, hend⟩ := outlineRow_append_inj hrest hrest' hafter
    exact ⟨by rw [htag, hchildren, hrow], hend⟩

/-- A tree is told by its outline. -/
theorem outline_inj {level : Int} {t u : TagTree} (h : t.outline level = u.outline level) :
    t = u := by
  have habove : Above level [] := fun _ hx => nomatch hx
  have hrow : outline.outlineRow level [t] ++ [] = outline.outlineRow level [u] ++ [] := by
    simp only [outline.outlineRow, h]
  exact (List.cons.inj (outlineRow_append_inj habove habove hrow).1).1

end TagTree

/-! ## Outlines of documents -/

namespace Xml.Element

/-- The tags of an element and of everything below it. -/
def tagTree : Element → TagTree
  | ⟨name, _, _, children, _⟩ => .node name.base (tagTrees children)
where
  tagTrees : List Element → List TagTree
    | [] => []
    | e :: es => tagTree e :: tagTrees es

end Xml.Element

/-- The tag of an element with its depth. -/
def Placed.mark (p : Placed) : String × Int := (p.element.tag, p.level)

namespace Xml.Element

mutual

theorem map_mark_placed (level : Int) :
    ∀ e : Element, (e.placed level).map Placed.mark = e.tagTree.outline level
  | ⟨_, _, _, children, _⟩ => by
    rw [placed, tagTree, TagTree.outline, List.map_cons, map_mark_placedRow (level + 1) children]
    rfl

theorem map_mark_placedRow (level : Int) :
    ∀ es : List Element, (placed.placedRow level es).map Placed.mark =
      TagTree.outline.outlineRow level (tagTree.tagTrees es)
  | [] => rfl
  | e :: es => by
    rw [placed.placedRow, tagTree.tagTrees, TagTree.outline.outlineRow, List.map_append,
      map_mark_placed level e, map_mark_placedRow level es]

end

end Xml.Element

namespace Document

/-- The tags of a document with their depths, in the order of its tree. -/
def outline (d : Document) : List (String × Int) := d.tree.map Placed.mark

theorem outline_eq (d : Document) : d.outline = d.root.tagTree.outline 0 := by
  rw [outline, tree_eq_placed, Element.map_mark_placed]

/-- **The tree of a document is listed in document order, and tags with depths tell it.** The walk
with a stack ends and gives the elements of the recursion; two documents whose elements have the
same tags and depths one by one have the same tree of tags. -/
theorem tree_inDocumentOrder (d : Document) :
    (∀ listing, Unloads [⟨d.root, 0⟩] listing ↔ listing = d.tree) ∧
      d.tree = d.root.placed 0 ∧
      Element.DocumentOrder d.root d.root.addresses d.tree ∧
      ∀ d' : Document, d.outline = d'.outline ↔ d.root.tagTree = d'.root.tagTree := by
  refine ⟨fun listing => ?_, d.tree_eq_placed, ?_, fun d' => ?_⟩
  · rw [unloads_iff, tree_eq_placed]
    simp
  · rw [tree_eq_placed]
    exact d.root.documentOrder_placed
  · rw [outline_eq, outline_eq]
    exact ⟨TagTree.outline_inj, fun h => by rw [h]⟩

example : (loadText "<a><b><c/>text</b><!-- no element --><d/></a>").toOption.join.map outline =
    some [("a", 0), ("b", 1), ("c", 2), ("d", 1)] := by
  decide +kernel

end Document

end Introspection
