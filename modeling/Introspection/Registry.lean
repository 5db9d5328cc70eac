import Introspection.Entity.Basic
import Introspection.Entity.Name

/-!
# Registries

A registry knows entities by name, and records and classes once more by themselves. The first
entity that takes a name keeps it.

* `Registry`, `Registry.insert?`, `Registry.insertRecord?`: registration;
* `Registry.lookup`, `Registry.names`: look-up;
* `Registry.parent?`, `Registry.ancestry`: the parents of classes.
-/

namespace Introspection

/-- Entities by name, in the order of their registration. -/
structure Registry where
  types : List (String × Entity) := []
  records : List (String × Entity) := []
deriving Repr, Inhabited

/-- Adds an entity behind the others unless its name is taken. -/
def insertNew? (entries : List (String × Entity)) (e : Entity) : Option (List (String × Entity)) :=
  if (entries.lookup e.name).isSome then none else some (entries ++ [(e.name, e)])

namespace Registry

def empty : Registry := {}

/-- Registers an entity; gives nothing if its name is taken. -/
def insert? (r : Registry) (e : Entity) : Option Registry :=
  (insertNew? r.types e).map fun types => { r with types }

/-- Registers an entity among the records; gives nothing if its name is taken there. -/
def insertRecord? (r : Registry) (e : Entity) : Option Registry :=
  (insertNew? r.records e).map fun records => { r with records }

def lookup (r : Registry) (name : String) : Option Entity := r.types.lookup name

def lookupRecord (r : Registry) (name : String) : Option Entity := r.records.lookup name

def contains (r : Registry) (name : String) : Bool := (r.lookup name).isSome

/-- Whether a name belongs to a record or a class. -/
def isRecord (r : Registry) (name : String) : Bool := (r.lookupRecord name).isSome

def kindOf? (r : Registry) (name : String) : Option Kind := (r.lookup name).bind Entity.kind?

/-- The names in the order of registration. -/
def names (r : Registry) : List String := r.types.map (·.1)

def size (r : Registry) : Nat := r.types.length

/-! ## Parents -/

/-- The parent of a class: the record with the name that it gives, or else with that name without
its namespace. -/
def parent? (r : Registry) (c : ObjectClass) : Option Entity :=
  if c.parent = "" then none
  else (r.lookupRecord c.parent).or (r.lookupRecord (withoutNamespace c.parent))

/-- The parent of an entity, which has one only if it is a class. -/
def parentOf? (r : Registry) : Entity → Option Entity
  | .objectClass c => r.parent? c
  | _ => none

/-- The parents above an entity, the nearest first, up to the first name that was seen before. -/
def climb (r : Registry) : Nat → List String → Entity → List Entity
  | 0, _, _ => []
  | fuel + 1, seen, e =>
    match r.parentOf? e with
    | none => []
    | some p => if p.name ∈ seen then [] else p :: climb r fuel (p.name :: seen) p

/-- The known ancestors of a class, the nearest first. No name occurs twice, so there are no more
than records. -/
def ancestry (r : Registry) (c : ObjectClass) : List Entity :=
  r.climb r.records.length [c.name] (.objectClass c)

end Registry

end Introspection
