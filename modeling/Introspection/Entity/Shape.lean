import Introspection.Entity.Basic

/-!
# Shapes of entities

* `Datatype.isVoid`, `CType.isVoid`: the empty type;
* `CType.isArray`: arrays;
* `Argument.isVarargs`, `Callable.isVarargs`: any number of arguments;
* the same questions for an entity of any kind.
-/

namespace Introspection

def Datatype.isVoid (t : Datatype) : Bool := t.type.isVoid

/-- Whether a type is empty; the native type decides if there is one. -/
def CType.isVoid (t : CType) : Bool :=
  if t.native = .written "" then t.type.isVoid else t.native.isVoid

def CType.isArray (t : CType) : Bool := !t.contained.isEmpty

/-- What the name of an argument begins with that stands for any number of arguments. -/
def ellipsis : String := "..."

/-- Whether a name stands for any number of arguments. -/
def isEllipsis (name : String) : Bool := ellipsis.toList.isPrefixOf name.toList

/-- Whether an argument stands for any number of arguments, by its flag or by its name. -/
def Argument.isVarargs (a : Argument) : Bool := a.varargs || isEllipsis a.name

def Callable.isVarargs (m : Callable) : Bool := m.args.any (·.isVarargs)

namespace Entity

/-- Whether an entity denotes the empty type, if its kind has a type. -/
def isVoid? : Entity → Option Bool
  | .thing _ | .method _ => none
  | .datatype t => some t.isVoid
  | .enumeration e => some e.toDatatype.isVoid
  | .bitfield e => some e.toDatatype.isVoid
  | .ctype t => some t.isVoid
  | .typeAlias a => some a.isVoid
  | .constant c => some c.toCType.isVoid
  | .argument a => some a.toCType.isVoid
  | .record r => some r.toCType.isVoid
  | .objectClass c => some c.toCType.isVoid

def isArray (e : Entity) : Bool := (e.toCType?.map (·.isArray)).getD false

/-- Whether an entity stands for or takes any number of arguments, if its kind can. -/
def isVarargs? : Entity → Option Bool
  | .argument a => some a.isVarargs
  | .method m => some m.isVarargs
  | _ => none

end Entity

end Introspection
