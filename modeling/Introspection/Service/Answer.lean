import Introspection.Service.Repository
import Introspection.Service.Search

/-!
# What a repository answers

* `Repository.health`, `Repository.listing`, `Repository.noticed`: what is known about the model;
* `Repository.detail`, `Repository.lineage`: one entity, and the ancestors of a class;
* `Repository.found`: what a search finds;
* `Repository.stub`: the stub of the document.
-/

namespace Introspection.Repository

open Service

/-- Whether the service works, and what it is about. -/
def health (r : Repository) : Json :=
  .object [("status", .text "healthy"), ("namespace", .text r.model.space),
    ("source", .text r.source)]

def kindJson (e : Entity) : Json := .optional (fun k => .text k.name) e.kind?

/-- An entity in a list. -/
def entryJson (e : Entity) : Json :=
  .object [("name", .text e.name), ("kind", kindJson e),
    ("deprecated", .bool e.toThing.deprecated.isSome)]

/-- The entities of a kind, or all of them. -/
def listing (r : Repository) (kind : Option String) : Json :=
  let wanted (e : Entity) : Bool := kind.all (hasKind e)
  .object [("types", .list ((r.model.types.filter wanted).map entryJson))]

def detail (r : Repository) (name : String) : Except Refusal Json :=
  match r.model.find? name with
  | none => .error (.noType name)
  | some e => .ok (.object [("type", e.json)])

/-- The ancestors of a class. -/
structure Lineage where
  name : String
  parent : String
  /-- The names of the ancestors that are known, the nearest first. -/
  ancestors : List String
  /-- Whether the last ancestor needs no further one. -/
  complete : Bool
deriving DecidableEq, Repr

def Lineage.json (l : Lineage) : Json :=
  .object [("name", .text l.name), ("parent", .text l.parent), ("ancestry", .texts l.ancestors),
    ("complete", .bool l.complete)]

/-- Whether an entity names a parent. -/
def namesParent : Entity → Bool
  | .objectClass c => c.parent != ""
  | _ => false

def lineage (r : Repository) (name : String) : Except Refusal Lineage :=
  match r.model.find? name with
  | some (.objectClass c) =>
    let chain := r.registry.ancestry c
    .ok {
      name := c.name
      parent := c.parent
      ancestors := chain.map (·.name)
      complete := !namesParent (chain.getLastD (.objectClass c)) }
  | _ => .error (.noClass name)

def found (r : Repository) (s : Search) : Json :=
  let es := s.results r.model.types
  .object [("query", .text s.query),
    ("results", .list (es.map fun e => .object [("name", .text e.name), ("kind", kindJson e)])),
    ("total", .integer es.length)]

/-- What was noticed while the model was built. -/
def noticed (r : Repository) : Json :=
  .object [("diagnostics", .list (r.model.diagnostics.map (·.json)))]

/-- The stub of the document as it is by now. -/
def stub (fs : Files) (r : Repository) : Except Refusal String :=
  match r.document fs with
  | .error _ => .error .failed
  | .ok none => .error .noDocument
  | .ok (some d) => .ok d.stub

end Introspection.Repository
