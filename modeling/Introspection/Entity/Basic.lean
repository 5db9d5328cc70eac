import Introspection.Text.Integer
import Introspection.Text.Piece

/-!
# Entities

What a document describes: aliases, constants, enumerations, records, classes and their callables.

* `Kind`: the kinds of entities and their names;
* `Placeholder`, `TypeSlot`: types as written, or what stands for one that could not be read;
* `Thing`: what all entities share;
* `Datatype`, `CType`, `Constant`, `Enumeration`, `Argument`, `Callable`, `Record`, `ObjectClass`;
* `Entity`: an entity of any kind.
-/

namespace Introspection

/-- The kinds of entities. -/
inductive Kind where
  | typeAlias
  | constant
  | enumeration
  | bitfield
  | record
  | objectClass
  | method
  | argument
  | datatype
deriving DecidableEq, Repr

def Kind.name : Kind → String
  | .typeAlias => "alias"
  | .constant => "constant"
  | .enumeration => "enumeration"
  | .bitfield => "bitfield"
  | .record => "record"
  | .objectClass => "class"
  | .method => "method"
  | .argument => "argument"
  | .datatype => "datatype"

/-! ## Types -/

/-- What stands for a type that could not be read. -/
structure Placeholder where
  /-- The position of the element that lacks it. -/
  index : Int
  /-- What was expected there. -/
  expected : String
  /-- In what way it is lacking. -/
  reason : String := "unknown"
deriving DecidableEq, Repr

/-- The text of a placeholder. -/
def Placeholder.text (p : Placeholder) : String :=
  "<" ++ p.reason ++ " " ++ p.expected ++ " " ++ Text.decimal p.index ++ ">"

/-- The place of a type. -/
inductive TypeSlot where
  | written (text : String)
  | unresolved (p : Placeholder)
deriving DecidableEq, Repr, Inhabited

def TypeSlot.text : TypeSlot → String
  | .written s => s
  | .unresolved p => p.text

def TypeSlot.isUnresolved : TypeSlot → Bool
  | .written _ => false
  | .unresolved _ => true

/-- Whether a type is written and begins like the empty type. -/
def TypeSlot.isVoid : TypeSlot → Bool
  | .written s => "Void".toList.isPrefixOf s.toList || "void".toList.isPrefixOf s.toList
  | .unresolved _ => false

/-! ## Things -/

/-- What all entities share. -/
structure Thing where
  /-- The name without its namespace. -/
  name : String
  comment : String := ""
  introspectable : Bool := false
  /-- What to use instead if the entity is deprecated. -/
  deprecated : Option String := none
  /-- Whether the entity is flagged as deprecated. -/
  marked : Bool := false
  version : Option String := none
deriving DecidableEq, Repr, Inhabited

/-- An entity with a type. -/
structure Datatype extends Thing where
  type : TypeSlot := .written ""
deriving DecidableEq, Repr, Inhabited

/-- An entity with a type and the native type below it. -/
structure CType extends Datatype where
  native : TypeSlot := .written ""
  /-- The types of the elements of an array. -/
  contained : List CType := []
deriving Repr, Inhabited

/-- A named number, or a member of an enumeration. -/
structure Constant extends CType where
  value : Int := 0
  raw : Option String := none
deriving Repr, Inhabited

/-- A list of named numbers. -/
structure Enumeration extends Datatype where
  members : List Constant := []
deriving Repr, Inhabited

/-- A parameter or a returned value. -/
structure Argument extends CType where
  /-- Whether it is the instance that a method is called on. -/
  receiver : Bool := false
  /-- Whether it stands for any number of arguments. -/
  varargs : Bool := false
deriving Repr, Inhabited

/-- What a callable returns that does not say what it returns. -/
def Argument.void : Argument := { name := "", type := .written "Void", native := .written "void" }

/-- A function, method or constructor. -/
structure Callable extends Thing where
  cname : String := ""
  returns : Argument := .void
  args : List Argument := []
  throws : Bool := false
deriving Repr, Inhabited

/-- A record with its callables. -/
structure Record extends CType where
  cprefix : String := ""
  typeGetter : String := ""
  methods : List Callable := []
  functions : List Callable := []
  constructors : List Callable := []
deriving Repr, Inhabited

/-- A class: a record with a parent, which is given by name. -/
structure ObjectClass extends Record where
  parent : String := ""
deriving Repr, Inhabited

/-- An entity of any kind. -/
inductive Entity where
  | thing (t : Thing)
  | datatype (t : Datatype)
  | ctype (t : CType)
  | typeAlias (a : CType)
  | constant (c : Constant)
  | enumeration (e : Enumeration)
  | bitfield (e : Enumeration)
  | argument (a : Argument)
  | method (m : Callable)
  | record (r : Record)
  | objectClass (c : ObjectClass)
deriving Repr, Inhabited

namespace Entity

def toThing : Entity → Thing
  | .thing t => t
  | .datatype t => t.toThing
  | .ctype t => t.toThing
  | .typeAlias a => a.toThing
  | .constant c => c.toThing
  | .enumeration e => e.toThing
  | .bitfield e => e.toThing
  | .argument a => a.toThing
  | .method m => m.toThing
  | .record r => r.toThing
  | .objectClass c => c.toThing

def name (e : Entity) : String := e.toThing.name

/-- The kind of an entity; a mere thing has none. -/
def kind? : Entity → Option Kind
  | .thing _ => none
  | .datatype _ => some .datatype
  | .ctype _ => some .datatype
  | .typeAlias _ => some .typeAlias
  | .constant _ => some .constant
  | .enumeration _ => some .enumeration
  | .bitfield _ => some .bitfield
  | .argument _ => some .argument
  | .method _ => some .method
  | .record _ => some .record
  | .objectClass _ => some .objectClass

/-- The native type of an entity with its element types, if it has one. -/
def toCType? : Entity → Option CType
  | .thing _ | .datatype _ | .enumeration _ | .bitfield _ | .method _ => none
  | .ctype t => some t
  | .typeAlias a => some a
  | .constant c => some c.toCType
  | .argument a => some a.toCType
  | .record r => some r.toCType
  | .objectClass c => some c.toCType

/-- The type of an entity, if its kind has one. -/
def type? : Entity → Option TypeSlot
  | .thing _ | .method _ => none
  | .datatype t => some t.type
  | .enumeration e => some e.type
  | .bitfield e => some e.type
  | .ctype t => some t.type
  | .typeAlias a => some a.type
  | .constant c => some c.type
  | .argument a => some a.type
  | .record r => some r.type
  | .objectClass c => some c.type

/-- Whether an entity is a record or a class. -/
def isRecordKind : Entity → Bool
  | .record _ | .objectClass _ => true
  | _ => false

end Entity

end Introspection
