import Introspection.Entity.Basic
import Introspection.Json.Basic

/-!
# Entities as JSON

Every entity is an object of its fields: those that all entities share first, then those of its
kind from the general to the special.

* `TypeSlot.json`: a text, or an object that says what is missing;
* `Entity.json`: the object of an entity.
-/

namespace Introspection

def Placeholder.json (p : Placeholder) : Json :=
  .object [("unresolved", .bool true), ("placeholder", .text p.text), ("index", .integer p.index),
    ("expected", .text p.expected)]

def TypeSlot.json : TypeSlot → Json
  | .written s => .text s
  | .unresolved p => p.json

def Kind.json (k : Kind) : Json := .text k.name

def Thing.fields (t : Thing) : List (String × Json) :=
  [("name", .text t.name), ("comment", .text t.comment),
    ("introspectable", .bool t.introspectable), ("deprecated", .optional .text t.deprecated),
    ("marked_as_deprecated", .bool t.marked), ("version", .optional .text t.version)]

/-- The fields of an entity of a kind that has a type. -/
def Datatype.fields (k : Kind) (t : Datatype) : List (String × Json) :=
  t.toThing.fields ++ [("type", t.type.json), ("kind", k.json)]

/-- The fields of an entity of a kind that has a native type. -/
def CType.fields (k : Kind) : CType → List (String × Json)
  | ⟨t, native, contained⟩ =>
    t.fields k ++ [("ctype", native.json), ("contained_types", .list (objects contained))]
where
  objects : List CType → List Json
    | [] => []
    | t :: ts => .object (fields .datatype t) :: objects ts

def Constant.fields (c : Constant) : List (String × Json) :=
  c.toCType.fields .constant ++
    [("value", .integer c.value), ("raw_value", .optional .text c.raw)]

/-- The fields of an enumeration or a bit field. -/
def Enumeration.fields (k : Kind) (e : Enumeration) : List (String × Json) :=
  e.toDatatype.fields k ++ [("members", .list (e.members.map fun c => .object c.fields))]

def Argument.fields (a : Argument) : List (String × Json) :=
  a.toCType.fields .argument ++
    [("instance", .bool a.receiver), ("varargs", .bool a.varargs)]

def Callable.fields (m : Callable) : List (String × Json) :=
  m.toThing.fields ++
    [("cname", .text m.cname), ("returns", .object m.returns.fields),
      ("args", .list (m.args.map fun a => .object a.fields)),
      ("throws_error", .bool m.throws), ("kind", Kind.json .method)]

def Callable.list (ms : List Callable) : Json := .list (ms.map fun m => .object m.fields)

def Record.fields (k : Kind) (r : Record) : List (String × Json) :=
  r.toCType.fields k ++
    [("cprefix", .text r.cprefix), ("typegetter", .text r.typeGetter),
      ("methods", Callable.list r.methods), ("functions", Callable.list r.functions),
      ("constructors", Callable.list r.constructors)]

def ObjectClass.fields (c : ObjectClass) : List (String × Json) :=
  c.toRecord.fields .objectClass ++ [("parent", .text c.parent)]

def Entity.fields : Entity → List (String × Json)
  | .thing t => t.fields
  | .datatype t => t.fields .datatype
  | .ctype t => t.fields .datatype
  | .typeAlias a => a.fields .typeAlias
  | .constant c => c.fields
  | .enumeration e => e.fields .enumeration
  | .bitfield e => e.fields .bitfield
  | .argument a => a.fields
  | .method m => m.fields
  | .record r => r.fields .record
  | .objectClass c => c.fields

def Entity.json (e : Entity) : Json := .object e.fields

end Introspection
