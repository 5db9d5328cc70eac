import Introspection.Entity.Basic
import Introspection.Json.Basic

/-!
# Diagnostics and warnings

What is noticed while a model is built or a stub is written, none of which ends the work.

* `Category`: the categories of top-level definitions;
* `Diagnostic`: what is noticed, with its kind, message, name and index;
* `Warning`: what is said on the way, with its message.
-/

namespace Introspection

/-! ## Categories -/

/-- The categories of top-level definitions. -/
inductive Category where
  | typeAlias
  | constant
  | enumeration
  | bitfield
  | record
  | objectClass
deriving DecidableEq, Repr

namespace Category

/-- The categories in the order in which their definitions are read. -/
def all : List Category := [.typeAlias, .constant, .enumeration, .bitfield, .record, .objectClass]

def kind : Category → Kind
  | .typeAlias => .typeAlias
  | .constant => .constant
  | .enumeration => .enumeration
  | .bitfield => .bitfield
  | .record => .record
  | .objectClass => .objectClass

/-- The tag of the elements that define entities of a category. -/
def tag (c : Category) : String := c.kind.name

/-- The name of a category in messages. -/
def label : Category → String
  | .enumeration => "enum"
  | c => c.tag

/-- The name of the entities of a category, several of them. -/
def plural : Category → String
  | .typeAlias => "aliases"
  | .constant => "constants"
  | .enumeration => "enumerations"
  | .bitfield => "bitfields"
  | .record => "records"
  | .objectClass => "classes"

end Category

/-! ## Diagnostics -/

/-- The kinds of diagnostics. -/
inductive DiagnosticKind where
  | duplicateDefinition
  | missingAttribute
  | blacklisted
  | unhandledNode
deriving DecidableEq, Repr

def DiagnosticKind.name : DiagnosticKind → String
  | .duplicateDefinition => "duplicate_definition"
  | .missingAttribute => "missing_attribute"
  | .blacklisted => "blacklisted"
  | .unhandledNode => "unhandled_node"

/-- What is noticed without ending the work. -/
inductive Diagnostic where
  | nameless (category : Category) (index : Nat)
  /-- A type could not be read, and a placeholder stands for it. -/
  | unresolved (p : Placeholder)
  /-- A definition is left out because of its name. -/
  | blacklisted (category : Category) (name : String) (index : Nat)
  /-- A definition is left out because its name is taken. -/
  | duplicate (category : Category) (name : String) (index : Nat)
  /-- A node of a document has no rule that renders it. -/
  | unhandled (tag : String) (level : Int)
deriving DecidableEq, Repr

namespace Diagnostic

def kind : Diagnostic → DiagnosticKind
  | .nameless .. => .missingAttribute
  | .unresolved _ => .missingAttribute
  | .blacklisted .. => .blacklisted
  | .duplicate .. => .duplicateDefinition
  | .unhandled .. => .unhandledNode

def message : Diagnostic → String
  | .nameless c i => c.label ++ " #" ++ Text.decimal i ++ " has no name"
  | .unresolved p => p.reason ++ " " ++ p.expected ++ " at index " ++ Text.decimal p.index
  | .blacklisted c n _ => "blacklisted " ++ c.label ++ " '" ++ n ++ "' skipped"
  | .duplicate c n _ => "duplicate type '" ++ n ++ "' for " ++ c.label ++ " ignored"
  | .unhandled t l => "no handler for '" ++ t ++ "' at level " ++ Text.decimal l

def name? : Diagnostic → Option String
  | .nameless .. | .unresolved _ => none
  | .blacklisted _ n _ => some n
  | .duplicate _ n _ => some n
  | .unhandled t _ => some t

def index? : Diagnostic → Option Int
  | .nameless _ i => some i
  | .unresolved p => some p.index
  | .blacklisted _ _ i => some i
  | .duplicate _ _ i => some i
  | .unhandled .. => none

def json (d : Diagnostic) : Json :=
  .object [("kind", .text d.kind.name), ("message", .text d.message),
    ("name", .optional .text d.name?), ("index", .optional .integer d.index?)]

end Diagnostic

/-! ## Warnings -/

/-- What is said on the way. -/
inductive Warning where
  | noNamespace (source : String)
  /-- A definition is left out because its name is taken. -/
  | duplicateType (name : String) (category : Category)
  /-- A document of a list could not be loaded. -/
  | skipped (path : String)
  /-- An option has a key that no one knows. -/
  | unknownOption (key : String)
  /-- The embedded document is served in place of an unusable one. -/
  | fallingBack (path : String)
deriving DecidableEq, Repr

def Warning.message : Warning → String
  | .noNamespace s => "No namespace element in " ++ s
  | .duplicateType n c => "Duplicate type '" ++ n ++ "' for " ++ c.label ++ " ignored!"
  | .skipped p => "Skipping " ++ p ++ ": document could not be loaded"
  | .unknownOption k => "Ignoring unknown builder option '" ++ k ++ "'"
  | .fallingBack p => "Falling back to embedded document: " ++ p ++ " unusable"

end Introspection
