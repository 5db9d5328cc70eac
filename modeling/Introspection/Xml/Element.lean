/-!
# Elements

The tree of a document with its names resolved to namespaces.

* `Name`, `Name.raw`: a name in a namespace and its written form;
* `Element`: a name, attributes, character data and child elements;
* `Element.size`, `Element.content`: the number of elements and the text of a subtree;
* `Element.attribute?`, `Element.childrenNamed`, `Element.firstChildNamed?`: look-up by local name.
-/

namespace Introspection.Xml

/-- A name in a namespace. The empty namespace stands for none. -/
structure Name where
  space : String
  base : String
deriving DecidableEq, Repr, Inhabited

/-- The written form of a name: the namespace in braces if there is one, then the local name. -/
def Name.raw (n : Name) : String :=
  if n.space = "" then n.base else "\x7b" ++ n.space ++ "\x7d" ++ n.base

/-- An attribute with its value. -/
structure Attribute where
  name : Name
  value : String
deriving DecidableEq, Repr

/-- An element of a document. -/
structure Element where
  name : Name
  /-- The attributes in document order. -/
  attributes : List Attribute
  /-- The character data before the first child. -/
  text : String
  /-- The child elements in document order. -/
  children : List Element
  /-- The character data between this element and what follows it in its parent. -/
  tail : String
deriving Repr, Inhabited

namespace Element

/-- The local name. -/
def tag (e : Element) : String := e.name.base

def size : Element → Nat
  | ⟨_, _, _, children, _⟩ => 1 + sizes children
where
  sizes : List Element → Nat
    | [] => 0
    | e :: es => size e + sizes es

/-- The character data of a subtree in document order. -/
def content : Element → String
  | ⟨_, _, text, children, _⟩ => text ++ contents children
where
  /-- The character data of several subtrees and behind each of them. -/
  contents : List Element → String
    | [] => ""
    | e :: es => content e ++ (e.tail ++ contents es)

/-- The value of the attribute with a local name: the one without a namespace if there is one, else
the first one in any namespace. A name may also be given in its written form. -/
def attribute? (e : Element) (name : String) : Option String :=
  match e.attributes.find? (·.name.raw == name) with
  | some a => some a.value
  | none => (e.attributes.find? fun a => a.name.space != "" && a.name.base == name).map (·.value)

/-- The value of an attribute, empty if it is missing. -/
def attributeD (e : Element) (name : String) : String := (e.attribute? name).getD ""

def childrenNamed (e : Element) (name : String) : List Element :=
  e.children.filter (·.tag == name)

/-- The first child with a local name. -/
def firstChildNamed? (e : Element) (name : String) : Option Element :=
  e.children.find? (·.tag == name)

end Element

end Introspection.Xml
