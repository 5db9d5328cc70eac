import Introspection.Xml.Element
import Introspection.Xml.Markup

/-!
# Namespaces

Attributes named `xmlns`, plain or as a prefix, bind prefixes to namespaces for an element and its
content. Elements without a prefix are in the default namespace, attributes without one in none.

* `Scope`, `Scope.extend?`: the bindings in force;
* `Markup.bindings`: all bindings of a tree in document order;
* `Markup.toElement?`: the tree with its names resolved.
-/

namespace Introspection.Xml

/-- The namespace that the prefix `xml` always stands for. -/
def xmlSpace : String := "http://www.w3.org/XML/1998/namespace"

/-- The namespace of the attributes that bind prefixes; it may not be bound. -/
def xmlnsSpace : String := "http://www.w3.org/2000/xmlns/"

/-- The bindings in force, the innermost first. The default namespace has no prefix. -/
abbrev Scope : Type := List (Option String × String)

/-- The bindings in force around a document. -/
def Scope.initial : Scope := [(some "xml", xmlSpace)]

/-- The prefix that an attribute binds, if it binds one. -/
def boundPrefix? : Label → Option (Option String)
  | ⟨none, "xmlns"⟩ => some none
  | ⟨some "xmlns", p⟩ => some (some p)
  | _ => none

/-- The bindings that a tag makes, in the order of its attributes. -/
def Tag.bindings (t : Tag) : List (Option String × String) :=
  t.attributes.filterMap fun (name, value) => (boundPrefix? name).map (·, value)

/-- Whether a prefix may be bound to a namespace: only `xml` to its own one and it to no other, no
prefix to none, `xmlns` not at all, and no namespace holds a closing brace. -/
def mayBind : Option String × String → Bool
  | (p, space) =>
    (p.isNone || space != "") && p != some "xmlns" && (p == some "xml") == (space == xmlSpace) &&
      space != xmlnsSpace && !space.toList.contains '\x7d'

/-- The bindings in force inside a tag. -/
def Scope.extend? (scope : Scope) (t : Tag) : Option Scope :=
  if t.bindings.all mayBind then some (t.bindings.reverse ++ scope) else none

/-- The name that a label stands for, given the namespace of labels without a prefix. -/
def Scope.resolve? (scope : Scope) (default : String) : Label → Option Name
  | ⟨none, base⟩ => some ⟨default, base⟩
  | ⟨some p, base⟩ => (scope.lookup (some p)).map (⟨·, base⟩)

/-- The attributes of a tag that bind no prefix, with their names resolved and all distinct. -/
def Scope.attributes? (scope : Scope) (t : Tag) : Option (List Attribute) := do
  let given := t.attributes.filter fun (name, _) => (boundPrefix? name).isNone
  let resolved ← given.mapM fun (name, value) => (scope.resolve? "" name).map (⟨·, value⟩)
  if (resolved.map (·.name)).eraseDups.length = resolved.length then some resolved else none

/-- The namespace of elements without a prefix. -/
def Scope.default (scope : Scope) : String := (scope.lookup none).getD ""

mutual

/-- The element of a tag with content in a scope, without what follows it. -/
def Markup.element? (scope : Scope) : Markup → Option Element
  | .text _ => none
  | .element tag content => do
    let scope ← scope.extend? tag
    let name ← scope.resolve? scope.default tag.name
    let attributes ← scope.attributes? tag
    let (lead, children) ← Markup.contents? scope content
    return ⟨name, attributes, lead, children, ""⟩

/-- The character data before the first element of some content, and the elements. -/
def Markup.contents? (scope : Scope) : List Markup → Option (String × List Element)
  | [] => some ("", [])
  | .text s :: content => do
    let (lead, children) ← Markup.contents? scope content
    return (s ++ lead, children)
  | .element tag inner :: content => do
    let e ← Markup.element? scope (.element tag inner)
    let (tail, children) ← Markup.contents? scope content
    return ("", { e with tail := tail } :: children)

end

mutual

/-- All bindings of a tree in document order. -/
def Markup.bindings : Markup → List (Option String × String)
  | .text _ => []
  | .element tag content => tag.bindings ++ Markup.contentBindings content

/-- All bindings of some content in document order. -/
def Markup.contentBindings : List Markup → List (Option String × String)
  | [] => []
  | m :: content => m.bindings ++ Markup.contentBindings content

end

/-- The tree with its names resolved. -/
def Markup.toElement? (m : Markup) : Option Element := m.element? Scope.initial

end Introspection.Xml
