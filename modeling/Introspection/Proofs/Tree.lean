import Introspection.Document

/-!
# Trees in document order

The elements of a document with their depths come from a stack of pending elements. They are the
same as those of a recursion over the tree.

* `Xml.Element.placed`: an element and everything below it with their depths;
* `Xml.Element.generation`: what is a number of levels further down;
* `Xml.Node.inclusive`: the same elements with their numbers, and `Xml.Node.descendants_eq`: the
  nodes below a node are its children, each with the nodes below it;
* **`Xml.Node.filter_placed`**, `Xml.Node.filter_below_placed`: what is a number of levels further
  down is what has that depth, and what is below is what is deeper;
* `Unloads`: working off a stack from its end until it is empty, and **`unloads_iff`**: this ends,
  and gives the elements one after the other, each with everything below it;
* **`visit_eq_flatMap`**: with enough steps the same is visited;
* **`Document.tree_eq_placed`**: the tree of a document is that of its root element;
* `Document.filter_tree`, `Document.filter_below_tree`: the parts of it by their depths.
-/

namespace Introspection

open Xml

namespace Xml.Element

/-! ## Sizes -/

theorem size_eq (e : Element) : e.size = 1 + size.sizes e.children := by
  cases e
  rw [size]

theorem sizes_append (as bs : List Element) :
    size.sizes (as ++ bs) = size.sizes as + size.sizes bs := by
  induction as with
  | nil => simp [size.sizes]
  | cons a as ih => simp only [List.cons_append, size.sizes, ih]; omega

theorem subtree_eq (e : Element) : e.subtree = e :: subtree.subtrees e.children := by
  cases e
  rw [subtree]

theorem mem_subtree_self (e : Element) : e ∈ e.subtree := by
  rw [subtree_eq]
  exact List.mem_cons_self

mutual

theorem length_subtree : ∀ e : Element, e.subtree.length = e.size
  | ⟨_, _, _, children, _⟩ => by
    rw [subtree, size, List.length_cons, length_subtrees children, Nat.add_comm]

theorem length_subtrees : ∀ es : List Element, (subtree.subtrees es).length = size.sizes es
  | [] => rfl
  | e :: es => by
    rw [subtree.subtrees, size.sizes, List.length_append, length_subtree e, length_subtrees es]

end

/-! ## Depths -/

/-- An element on a level and everything below it, in document order. -/
def placed (level : Int) : Element → List Placed
  | ⟨name, attributes, text, children, tail⟩ =>
    ⟨⟨name, attributes, text, children, tail⟩, level⟩ :: placedRow (level + 1) children
where
  /-- Elements on a level and everything below them. -/
  placedRow (level : Int) : List Element → List Placed
    | [] => []
    | e :: es => placed level e ++ placedRow level es

theorem placed_eq (level : Int) (e : Element) :
    e.placed level = ⟨e, level⟩ :: placed.placedRow (level + 1) e.children := by
  cases e
  rw [placed]

theorem placedRow_eq_flatMap (level : Int) (es : List Element) :
    placed.placedRow level es = es.flatMap (placed level) := by
  induction es with
  | nil => rfl
  | cons e es ih => rw [placed.placedRow, ih, List.flatMap_cons]

mutual

theorem map_element_placed (level : Int) :
    ∀ e : Element, (e.placed level).map (·.element) = e.subtree
  | ⟨_, _, _, children, _⟩ => by
    rw [placed, subtree, List.map_cons, map_element_placedRow (level + 1) children]

theorem map_element_placedRow (level : Int) :
    ∀ es : List Element, (placed.placedRow level es).map (·.element) = subtree.subtrees es
  | [] => rfl
  | e :: es => by
    rw [placed.placedRow, subtree.subtrees, List.map_append, map_element_placed level e,
      map_element_placedRow level es]

end

theorem length_placed (level : Int) (e : Element) : (e.placed level).length = e.size := by
  rw [← e.length_subtree, ← e.map_element_placed level, List.length_map]

/-! ## Generations -/

/-- The elements a number of levels below an element, in document order. -/
def generation : Nat → Element → List Element
  | 0, e => [e]
  | n + 1, e => e.children.flatMap (generation n)

mutual

theorem le_level_of_mem_placed {level : Int} {p : Placed} :
    ∀ e : Element, p ∈ e.placed level → level ≤ p.level
  | ⟨_, _, _, children, _⟩, h => by
    rw [placed, List.mem_cons] at h
    rcases h with rfl | h
    · exact Int.le_refl _
    · have := le_level_of_mem_placedRow children h
      omega

theorem le_level_of_mem_placedRow {level : Int} {p : Placed} :
    ∀ es : List Element, p ∈ placed.placedRow level es → level ≤ p.level
  | [], h => by cases h
  | e :: es, h => by
    rw [placed.placedRow, List.mem_append] at h
    exact h.elim (le_level_of_mem_placed e) (le_level_of_mem_placedRow es)

end

end Xml.Element

/-! ## Numbers -/

namespace Xml.Node

theorem zipIdx_subtrees (k : Nat) (es : List Element) :
    ((Element.subtree.subtrees es).zipIdx k).map (fun (e, i) => Node.mk e i) =
      (Node.row k es).flatMap inclusive := by
  induction es generalizing k with
  | nil => rfl
  | cons e es ih =>
    rw [Element.subtree.subtrees, Node.row, List.flatMap_cons, List.zipIdx_append, List.map_append,
      Element.length_subtree, ih]
    congr 1
    cases e
    rfl

theorem descendants_eq (n : Node) : n.descendants = n.children.flatMap inclusive :=
  zipIdx_subtrees _ _

theorem size_le_of_mem_row {m : Node} {k : Nat} {es : List Element} (h : m ∈ Node.row k es) :
    m.element.size ≤ Element.size.sizes es := by
  induction es generalizing k with
  | nil => cases h
  | cons e es ih =>
    rw [Node.row, List.mem_cons] at h
    rw [Element.size.sizes]
    rcases h with rfl | h
    · exact Nat.le_add_right _ _
    · have := ih h
      omega

theorem size_lt_of_mem_children {m n : Node} (h : m ∈ n.children) :
    m.element.size < n.element.size := by
  have := size_le_of_mem_row h
  rw [n.element.size_eq]
  omega

theorem mem_descendants_of_mem_children {m n c : Node} (hm : m ∈ n.inclusive)
    (hc : c ∈ m.children) : c ∈ n.descendants := by
  rw [descendants_eq, List.mem_flatMap]
  rcases List.mem_cons.mp hm with rfl | hm
  · exact ⟨c, hc, List.mem_cons_self⟩
  · rw [descendants_eq, List.mem_flatMap] at hm
    obtain ⟨a, ha, hm⟩ := hm
    have := size_lt_of_mem_children ha
    exact ⟨a, ha, List.mem_cons_of_mem _ (mem_descendants_of_mem_children hm hc)⟩
termination_by n.element.size

/-! ## Numbers and depths -/

/-- The node of an element of a tree that is numbered in the order of the tree. -/
def ofPlaced (x : Placed × Nat) : Node := ⟨x.1.element, x.2⟩

/-- The nodes a number of levels below a node, in document order. -/
def generation : Nat → Node → List Node
  | 0, n => [n]
  | m + 1, n => n.children.flatMap (generation m)

theorem map_element_row (k : Nat) (es : List Element) : (row k es).map (·.element) = es := by
  induction es generalizing k with
  | nil => rfl
  | cons e es ih => rw [row, List.map_cons, ih]

theorem map_element_generation (m : Nat) (n : Node) :
    (n.generation m).map (·.element) = n.element.generation m := by
  induction m generalizing n with
  | zero => rfl
  | succ m ih =>
    rw [generation, Element.generation, List.map_flatMap, ← map_element_row (n.number + 1)
      n.element.children, List.flatMap_map, children]
    congr 1
    funext c
    exact ih c

theorem map_element_descendants (n : Node) :
    n.descendants.map (·.element) = Element.subtree.subtrees n.element.children := by
  rw [descendants, List.map_map]
  exact List.zipIdx_map_fst _ _

theorem zipIdx_placedRow (level : Int) (k : Nat) (es : List Element) :
    (Element.placed.placedRow level es).zipIdx k =
      (row k es).flatMap fun n => (n.element.placed level).zipIdx n.number := by
  induction es generalizing k with
  | nil => rfl
  | cons e es ih =>
    rw [Element.placed.placedRow, row, List.flatMap_cons, List.zipIdx_append,
      Element.length_placed, ih]

theorem lt_level_of_mem_zipIdx {level : Int} {k : Nat} {es : List Element} {x : Placed × Nat}
    (h : x ∈ (Element.placed.placedRow (level + 1) es).zipIdx k) : level < x.1.level := by
  have := Element.le_level_of_mem_placedRow _ (List.fst_mem_of_mem_zipIdx h)
  omega

/-- **What has a depth is what is that far down.** -/
theorem filter_placed (m : Nat) (level : Int) (n : Node) :
    (((n.element.placed level).zipIdx n.number).filter (·.1.level = level + m)).map ofPlaced =
      n.generation m := by
  induction m generalizing level n with
  | zero =>
    have hbelow : ((Element.placed.placedRow (level + 1) n.element.children).zipIdx
        (n.number + 1)).filter (·.1.level = level + (0 : Nat)) = [] := by
      rw [List.filter_eq_nil_iff]
      intro x hx
      have := lt_level_of_mem_zipIdx hx
      rw [decide_eq_true_eq]
      omega
    rw [Element.placed_eq, List.zipIdx_cons, List.filter_cons, hbelow]
    simp [generation, ofPlaced]
  | succ m ih =>
    have hhead : ¬level = level + (m + 1 : Nat) := by omega
    rw [Element.placed_eq, List.zipIdx_cons, List.filter_cons, if_neg (by simpa using hhead),
      zipIdx_placedRow, List.filter_flatMap, List.map_flatMap, generation, children]
    congr 1
    funext c
    rw [← ih (level + 1) c, Int.add_assoc, Int.add_comm 1, Int.natCast_succ]

theorem filter_below_placed (level : Int) (n : Node) :
    (((n.element.placed level).zipIdx n.number).filter (level < ·.1.level)).map ofPlaced =
      n.descendants := by
  have hbelow : ((Element.placed.placedRow (level + 1) n.element.children).zipIdx
      (n.number + 1)).filter (level < ·.1.level) =
        (Element.placed.placedRow (level + 1) n.element.children).zipIdx (n.number + 1) :=
    List.filter_eq_self.mpr fun x hx => decide_eq_true (lt_level_of_mem_zipIdx hx)
  rw [Element.placed_eq, List.zipIdx_cons, List.filter_cons, if_neg (by simp), hbelow, descendants,
    ← Element.map_element_placedRow (level + 1), List.zipIdx_map, List.map_map]
  rfl

end Xml.Node

/-! ## The stack -/

/-- The number of elements on a stack and below them. -/
def pending (stack : List Placed) : Nat := Element.size.sizes (stack.map (·.element))

/-- An element comes off a stack, and its children go on. -/
theorem pending_children_append (p : Placed) (stack : List Placed) :
    pending (p.element.children.map (⟨·, p.level + 1⟩) ++ stack) + 1 = pending (p :: stack) := by
  have hs := p.element.size_eq
  simp only [pending, List.map_cons, Element.size.sizes, List.map_append, List.map_map,
    Function.comp_def, List.map_id', Element.sizes_append]
  omega

/-- What comes off a stack until it is empty. The element at the end comes off, and its children go
on in reverse, so that the first one is the next to come off. -/
inductive Unloads : List Placed → List Placed → Prop
  | empty : Unloads [] []
  | pop {p : Placed} {stack listing : List Placed} :
    Unloads (stack ++ p.element.children.reverse.map (⟨·, p.level + 1⟩)) listing →
      Unloads (stack ++ [p]) (p :: listing)

/-- Everything comes off a stack that is worked off with enough steps. -/
theorem unloads_visit :
    ∀ (fuel : Nat) (stack : List Placed), pending stack ≤ fuel →
      Unloads stack.reverse (visit fuel stack)
  | 0, [], _ => .empty
  | 0, p :: stack, h => by
    have := pending_children_append p stack
    omega
  | _ + 1, [], _ => .empty
  | fuel + 1, p :: stack, h => by
    have hp : pending (p.element.children.map (⟨·, p.level + 1⟩) ++ stack) ≤ fuel := by
      have := pending_children_append p stack
      omega
    have hrest := unloads_visit fuel _ hp
    rw [List.reverse_append, ← List.map_reverse] at hrest
    rw [visit, List.reverse_cons]
    exact .pop hrest

theorem Unloads.eq_flatMap {stack listing : List Placed} (h : Unloads stack listing) :
    listing = stack.reverse.flatMap fun p => p.element.placed p.level := by
  induction h with
  | empty => rfl
  | @pop p stack listing _ ih =>
    rw [ih, List.reverse_append, ← List.map_reverse, List.reverse_reverse, List.flatMap_append,
      List.flatMap_map, List.reverse_append, List.reverse_singleton, List.singleton_append,
      List.flatMap_cons, Element.placed_eq, Element.placedRow_eq_flatMap, List.cons_append]

/-- **A stack gives its elements one after the other, each with everything below it.** -/
theorem visit_eq_flatMap {fuel : Nat} {stack : List Placed} (h : pending stack ≤ fuel) :
    visit fuel stack = stack.flatMap fun p => p.element.placed p.level := by
  rw [(unloads_visit fuel stack h).eq_flatMap, List.reverse_reverse]

/-- **Working off a stack ends, in one way.** -/
theorem unloads_iff {stack listing : List Placed} :
    Unloads stack listing ↔ listing = stack.reverse.flatMap fun p => p.element.placed p.level := by
  refine ⟨Unloads.eq_flatMap, ?_⟩
  rintro rfl
  have hends := unloads_visit _ stack.reverse (Nat.le_refl _)
  rwa [visit_eq_flatMap (Nat.le_refl _), List.reverse_reverse] at hends

namespace Document

variable (d : Document)

/-- **The tree of a document is that of its root element.** -/
theorem tree_eq_placed : d.tree = d.root.placed 0 := by
  rw [tree, visit_eq_flatMap]
  · simp
  · simp [pending, Element.size.sizes]

theorem mem_subtree_of_mem_tree {d : Document} {p : Placed} (h : p ∈ d.tree) :
    p.element ∈ d.root.subtree := by
  rw [← Element.map_element_placed 0, ← tree_eq_placed]
  exact List.mem_map_of_mem h

theorem filter_tree (m : Nat) :
    (d.tree.zipIdx.filter (·.1.level = (m : Int))).map Node.ofPlaced =
      Node.generation m ⟨d.root, 0⟩ := by
  rw [← Node.filter_placed m 0, tree_eq_placed]
  simp only [Int.zero_add]

theorem filter_below_tree :
    (d.tree.zipIdx.filter (0 < ·.1.level)).map Node.ofPlaced = Node.descendants ⟨d.root, 0⟩ := by
  rw [← Node.filter_below_placed 0, tree_eq_placed]

theorem map_element_filter_tree (m : Nat) :
    (d.tree.filter (·.level = (m : Int))).map (·.element) = d.root.generation m := by
  rw [← Node.map_element_generation m ⟨d.root, 0⟩, ← filter_tree, List.map_map]
  conv => lhs; rw [← List.zipIdx_map_fst 0 d.tree, List.filter_map, List.map_map]
  rfl

end Document

end Introspection
