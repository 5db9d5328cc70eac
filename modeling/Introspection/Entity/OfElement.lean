import Introspection.Document
import Introspection.Entity.Shape
import Introspection.Reported

/-!
# Entities of elements

How the elements of a document describe entities. An element that lacks a name or a type still
gives an entity: the name is made from its position, and a placeholder with a diagnostic stands for
the type.

* `Thing.ofElement`: name, documentation, deprecation and availability;
* `CType.ofElement`, `Constant.ofElement`, `Enumeration.ofElement`: types and numbers;
* `Argument.ofElement`, `Callable.ofElement`: callables;
* `Record.ofElement`, `ObjectClass.ofElement`: records and classes;
* `Category.entity`: the entity of an element in a category.
-/

namespace Introspection

open Xml

/-! ## Things -/

/-- The texts of the children with a tag, one after the other on lines of their own. -/
def documentation (e : Element) (tag : String) : String :=
  String.intercalate "\n" ((e.childrenNamed tag).map Element.content)

/-- The advice for entities that are flagged as deprecated and give no advice. -/
def deprecatedDefault : String := "This method is deprecated."

def deprecation? (e : Element) : Option String :=
  let advice := documentation e "doc-deprecated"
  if advice ≠ "" then some advice
  else if e.flag "deprecated" then some deprecatedDefault
  else none

/-- The name of an element, made from its position if it has none. -/
def nameOrUnknown (e : Element) (index : Int) : String :=
  let name := e.attributeD "name"
  if name = "" then "Unknown" ++ Text.decimal index else name

/-- What an element says about the entity that it describes, whatever its kind. -/
def Thing.ofElement (e : Element) (index : Int) : Thing where
  name := nameOrUnknown e index
  comment := documentation e "doc"
  introspectable := e.flag "introspectable"
  deprecated := deprecation? e
  marked := e.flag "deprecated"
  version := e.attribute? "version"

/-! ## Types -/

/-- A placeholder in the place of a type, with a diagnostic unless it is expected to be missing. -/
def TypeSlot.missing (p : Placeholder) (report : Bool) : Reported TypeSlot :=
  ⟨.unresolved p, if report then [.unresolved p] else []⟩

/-- The type as written, or a placeholder. -/
def TypeSlot.orMissing (written : Option String) (p : Placeholder) (report : Bool) :
    Reported TypeSlot :=
  match written with
  | some s => pure (.written s)
  | none => TypeSlot.missing p report

/-- The value of the first of two attributes that is there. -/
def firstAttribute? (e : Element) (name other : String) : Option String :=
  (e.attribute? name).or (e.attribute? other)

/-- The native type that an element gives by itself: in an attribute that is named, in its own
attribute if it is an array, and else in its first `type` child. -/
def nativeType (e : Element) (index : Int) (nativeAttribute : Option String) : Reported TypeSlot :=
  match nativeAttribute with
  | some a => TypeSlot.orMissing (e.attribute? a) ⟨index, "ctype", "unknown"⟩ true
  | none =>
    if e.tag = "array" then
      TypeSlot.orMissing (e.attribute? "type") ⟨index, "ctype", "unknown"⟩ true
    else
      TypeSlot.orMissing ((e.firstChildNamed? "type").bind fun t => firstAttribute? t "name" "type")
        ⟨index, "type", "unknown"⟩ true

/-- The type of the elements of an array. -/
def CType.ofContained (e : Element) (index : Int) : Reported CType := do
  let native ← nativeType e index (some "type")
  return { Thing.ofElement e index with type := .written (e.attributeD "type"), native }

/-- The types of the elements of an array. They share the position of the array. -/
def containedTypes (array : Element) (index : Int) : Reported (List CType) :=
  Reported.each (fun e _ => CType.ofContained e index) (array.childrenNamed "type")

/-- The type that an element describes by itself. -/
def CType.ofElement (e : Element) (index : Int) (typeAttribute : String)
    (nativeAttribute : Option String) : Reported CType := do
  let contained ← if e.tag = "array" then containedTypes e index else pure []
  let native ← nativeType e index nativeAttribute
  return { Thing.ofElement e index with
    type := .written (e.attributeD typeAttribute), native, contained }

/-! ## Constants and enumerations -/

/-- The constant that an element describes. A value that is no integer is replaced by the
position. -/
def Constant.ofElement (e : Element) (index : Int) (nativeAttribute : Option String) :
    Reported Constant := do
  let t ← CType.ofElement e index "type" nativeAttribute
  let raw := e.attribute? "value"
  return { t with value := (raw.bind Text.readInteger?).getD index, raw }

/-- The enumeration or bit field that an element describes. -/
def Enumeration.ofElement (e : Element) (index : Int) : Reported Enumeration := do
  let members ←
    Reported.each (fun m i => Constant.ofElement m i (some "identifier")) (e.childrenNamed "member")
  return { Thing.ofElement e index with type := .written (e.attributeD "type"), members }

/-! ## Callables -/

/-- The element that gives the type of a child, if the child has one: the child itself or its first
`type` child. -/
def typeNode? (child : Element) : Option Element :=
  if child.tag = "type" then some child else child.firstChildNamed? "type"

/-- The type and the native type that the children of an element give: the first child that is or
holds a `type` counts. -/
def childTypes (e : Element) (index : Int) (report : Bool) : Reported (TypeSlot × TypeSlot) :=
  match e.children.findSome? fun c => (typeNode? c).map (c, ·) with
  | some (child, entry) => do
    let type ← TypeSlot.orMissing (firstAttribute? child "name" "type")
      ⟨index, "type", "unknown"⟩ report
    let native ← TypeSlot.orMissing (firstAttribute? entry "type" "name")
      ⟨index, "ctype", "untyped"⟩ report
    return (type, native)
  | none => do
    let type ← TypeSlot.missing ⟨index, "type", "missing"⟩ report
    let native ← TypeSlot.missing ⟨index, "ctype", "missing"⟩ report
    return (type, native)

/-- The type and the native type of an array: its name, or else its native type for both. -/
def arrayTypes (array : Element) (index : Int) : Reported (TypeSlot × TypeSlot) := do
  let native ← TypeSlot.orMissing (array.attribute? "type") ⟨index, "ctype", "unknown"⟩ true
  let name := array.attributeD "name"
  return (if name = "" then native else .written name, native)

/-- Whether an element stands for any number of arguments. -/
def isVarargsElement (e : Element) : Bool :=
  (e.firstChildNamed? "varargs").isSome || isEllipsis (e.attributeD "name")

/-- The element types, the type and the native type of an argument. What is missing is reported
unless the argument stands for any number of arguments and is no array. -/
def argumentTypes (e : Element) (index : Int) :
    Reported (List CType × TypeSlot × TypeSlot) :=
  match e.firstChildNamed? "array" with
  | some array => do
    let contained ← containedTypes array index
    let types ← arrayTypes array index
    return (contained, types)
  | none => do
    let types ← childTypes e index !isVarargsElement e
    return ([], types)

/-- The argument or returned value that an element describes. -/
def Argument.ofElement (e : Element) (index : Int) : Reported Argument := do
  let (contained, type, native) ← argumentTypes e index
  return { Thing.ofElement e index with
    type, native, contained
    varargs := isVarargsElement e
    receiver := "instance".toList.isPrefixOf e.tag.toList }

/-- The elements of the parameters of a callable: under its first `parameters` child, or directly
below it. -/
def parameterElements (e : Element) : List Element :=
  (((e.firstChildNamed? "parameters").getD e).children).filter fun c =>
    "parameter".toList.isSuffixOf c.tag.toList

/-- Whether an element is marked as raising errors: by an integer other than zero. -/
def raisesErrors (e : Element) : Bool :=
  ((e.attribute? "throws").bind Text.readInteger?).any (· ≠ 0)

/-- The function, method or constructor that an element describes. -/
def Callable.ofElement (e : Element) (index : Int) : Reported Callable := do
  let returns ← match e.firstChildNamed? "return-value" with
    | some r => Argument.ofElement r (-1)
    | none => pure .void
  let args ← Reported.each (fun p i => Argument.ofElement p i) (parameterElements e)
  return { Thing.ofElement e index with
    cname := e.attributeD "identifier", returns, args, throws := raisesErrors e }

/-- The callables that the children with a tag describe. -/
def callables (e : Element) (tag : String) : Reported (List Callable) :=
  Reported.each (fun m i => Callable.ofElement m i) (e.childrenNamed tag)

/-! ## Records and classes -/

def Record.ofElement (e : Element) (index : Int) : Reported Record := do
  let t ← CType.ofElement e index "type-name" (some "type")
  let functions ← callables e "function"
  let methods ← callables e "method"
  let constructors ← callables e "constructor"
  return { t with
    cprefix := e.attributeD "symbol-prefix", typeGetter := e.attributeD "get-type",
    functions, methods, constructors }

def ObjectClass.ofElement (e : Element) (index : Int) : Reported ObjectClass := do
  let r ← Record.ofElement e index
  return { r with parent := e.attributeD "parent" }

/-- The entity that an element describes in a category. -/
def Category.entity (c : Category) (e : Element) (index : Int) : Reported Entity :=
  match c with
  | .typeAlias => do return .typeAlias (← CType.ofElement e index "type" none)
  | .constant => do return .constant (← Constant.ofElement e index none)
  | .enumeration => do return .enumeration (← Enumeration.ofElement e index)
  | .bitfield => do return .bitfield (← Enumeration.ofElement e index)
  | .record => do return .record (← Record.ofElement e index)
  | .objectClass => do return .objectClass (← ObjectClass.ofElement e index)

end Introspection
