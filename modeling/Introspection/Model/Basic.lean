import Introspection.Config.Basic
import Introspection.Entity.OfElement
import Introspection.Outcome
import Introspection.Registry

/-!
# Models

A model holds the entities that a document contributes. Its definitions are read category by
category and in document order inside each; the first definition of a name is kept, also over those
of other documents that share the registry.

* `Model`, `Model.types`, `Model.find?`: the entities of a document;
* `Candidate`, `Document.candidates`: the elements that define entities;
* `Intake`, `Intake.take`: what is known after some of the candidates;
* `Model.ofDocument`: the model of a document.
-/

namespace Introspection

/-! ## Models -/

/-- An entity that a document contributes. -/
structure Kept where
  category : Category
  entity : Entity
deriving Repr

/-- The entities that a document contributes. -/
structure Model where
  source : String
  space : String := ""
  identifierPrefixes : List String := []
  symbolPrefixes : List String := []
  kept : List Kept := []
  errorType : String
  diagnostics : List Diagnostic := []
deriving Repr

namespace Model

/-- The entities in the order in which they were read. -/
def types (m : Model) : List Entity := m.kept.map (·.entity)

def inCategory (m : Model) (c : Category) : List Entity :=
  (m.kept.filter (·.category = c)).map (·.entity)

def find? (m : Model) (name : String) : Option Entity := m.types.find? (·.name == name)

end Model

/-! ## Candidates -/

/-- An element that defines an entity, with its position among those of its category. -/
structure Candidate where
  category : Category
  element : Xml.Element
  index : Nat
deriving Repr

/-- The path to the definitions of a category. -/
def Category.path (c : Category) (rootPrefix : String) : String :=
  "./*/" ++ rootPrefix ++ ":" ++ c.tag

/-- The candidates of a category in document order. -/
def Document.candidatesIn (d : Document) (rootPrefix : String) (c : Category) :
    Except Failure (List Candidate) := do
  let nodes ← d.xpath (c.path rootPrefix) rootPrefix
  return nodes.zipIdx.map fun (n, i) => ⟨c, n.element, i⟩

def Document.candidates (d : Document) (rootPrefix : String) : Except Failure (List Candidate) := do
  let groups ← Category.all.mapM (d.candidatesIn rootPrefix)
  return groups.flatten

namespace Candidate

def isNamed (c : Candidate) : Bool := (c.element.attribute? "name").isSome

def entity (c : Candidate) : Reported Entity := c.category.entity c.element c.index

/-- What is noticed about a candidate whether it is kept or not. -/
def diagnostics (c : Candidate) : List Diagnostic :=
  (if c.isNamed then [] else [.nameless c.category c.index]) ++ c.entity.diagnostics

end Candidate

/-! ## The intake -/

/-- What is known after some of the candidates of a document. -/
structure Intake where
  registry : Registry
  kept : List Kept := []
  diagnostics : List Diagnostic := []
  warnings : List Warning := []
  errorType : String
deriving Repr

namespace Intake

def note (s : Intake) (ds : List Diagnostic) : Intake :=
  { s with diagnostics := s.diagnostics ++ ds }

/-- Keeps an entity; a record or class is known among the records as well. -/
def keep (config : Config) (s : Intake) (c : Category) (e : Entity) (r : Registry) : Intake :=
  { s with
    registry := if e.isRecordKind then (r.insertRecord? e).getD r else r
    kept := s.kept ++ [⟨c, e⟩]
    errorType :=
      if e.name = config.errorTypeName then ((e.type?.map (·.text)).getD "") else s.errorType }

/-- Takes in a candidate: it is left out if its name is blacklisted or taken. -/
def take (config : Config) (s : Intake) (c : Candidate) : Intake :=
  let s := s.note c.diagnostics
  let e := c.entity.value
  if e.name ∈ config.blacklist then s.note [.blacklisted c.category e.name c.index]
  else
    match s.registry.insert? e with
    | none =>
      let s := s.note [.duplicate c.category e.name c.index]
      { s with warnings := s.warnings ++ [.duplicateType e.name c.category] }
    | some r => s.keep config c.category e r

def takeAll (config : Config) (s : Intake) (cs : List Candidate) : Intake :=
  cs.foldl (take config) s

end Intake

/-! ## Building -/

/-- What the `namespace` element of a document says. -/
structure Header where
  space : String := ""
  identifierPrefixes : List String := []
  symbolPrefixes : List String := []
deriving Repr

def Header.path (rootPrefix : String) : String := ".//" ++ rootPrefix ++ ":namespace"

/-- Reads the header of a document, if it has one. -/
def Header.read? (config : Config) (d : Document) : Except Failure (Option Header) := do
  match ← d.findFirst? (Header.path config.rootPrefix) config.rootPrefix with
  | none => return none
  | some n => do
    let identifierPrefixes ← n.element.subAttributes "identifier-prefixes" config.delimiter
    let symbolPrefixes ← n.element.subAttributes "symbol-prefixes" config.delimiter
    return some { space := n.element.attributeD "name", identifierPrefixes, symbolPrefixes }

/-- A model with the registry as it is after the model was built. -/
structure Built where
  model : Model
  registry : Registry
deriving Repr

/-- The model of a document, built with a registry that may know entities of other documents. -/
def Model.ofDocument (config : Config) (registry : Registry) (d : Document) : Outcome Built := do
  let header? ← Outcome.ofExcept (Header.read? config d)
  if header?.isNone then Outcome.warn (.noNamespace d.source)
  let header := header?.getD {}
  let candidates ← Outcome.ofExcept (d.candidates config.rootPrefix)
  let s := Intake.takeAll config ⟨registry, [], [], [], config.defaultErrorType⟩ candidates
  Outcome.warnAll s.warnings
  return {
    model := {
      source := d.source
      space := header.space
      identifierPrefixes := header.identifierPrefixes
      symbolPrefixes := header.symbolPrefixes
      kept := s.kept
      errorType := s.errorType
      diagnostics := s.diagnostics }
    registry := s.registry }

end Introspection
