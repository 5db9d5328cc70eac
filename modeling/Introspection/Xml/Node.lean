import Introspection.Xml.Element

/-!
# Numbered elements

An element does not know where it stands in its document. A node is an element with its number in
document order.

* `Element.subtree`: the elements of a subtree in document order;
* `Node`, `Node.children`, `Node.descendants`, `Node.inclusive`: nodes and those below them;
* `Node.parent?`: the node right above another one.
-/

namespace Introspection.Xml

/-- The elements of a subtree in document order. -/
def Element.subtree : Element → List Element
  | ⟨name, attributes, text, children, tail⟩ =>
    ⟨name, attributes, text, children, tail⟩ :: subtrees children
where
  subtrees : List Element → List Element
    | [] => []
    | e :: es => subtree e ++ subtrees es

/-- An element with its number in document order. -/
structure Node where
  element : Element
  number : Nat
deriving Repr, Inhabited

namespace Node

/-- Elements whose subtrees follow each other in document order, numbered from `n` on. -/
def row (n : Nat) : List Element → List Node
  | [] => []
  | e :: es => ⟨e, n⟩ :: row (n + e.size) es

def children (n : Node) : List Node := row (n.number + 1) n.element.children

/-- The nodes below a node in document order. -/
def descendants (n : Node) : List Node :=
  ((Element.subtree.subtrees n.element.children).zipIdx (n.number + 1)).map fun (e, i) => ⟨e, i⟩

/-- A node and the nodes below it, in document order. -/
def inclusive (n : Node) : List Node := n :: n.descendants

/-- The nodes at or below a node that have children, each by the numbers of its children. -/
def parents (root : Node) : List (Nat × Node) :=
  root.inclusive.flatMap fun p => p.children.map fun c => (c.number, p)

/-- The node right above another one, if it is at or below the root. -/
def parent? (root n : Node) : Option Node := root.parents.lookup n.number

/-- The first node with each number. -/
def distinct : List Node → List Node
  | [] => []
  | n :: ns => n :: (distinct ns).filter (·.number != n.number)

end Node

end Introspection.Xml
