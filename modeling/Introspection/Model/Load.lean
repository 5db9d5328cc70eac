import Introspection.Files.Basic
import Introspection.Model.Basic

/-!
# Models of files

* `Document.ofFile`: the document at a path;
* `Model.ofFile`, `Model.ofBuffer`: the model of the document at a path, or held in memory;
* `ModelSet`, `ModelSet.ofFiles`: the models of several documents that share a registry.
-/

namespace Introspection

/-- Loads the document at a path; gives nothing if there is no file or it is not well formed. No
file can have a path with a null character, and asking for one is a failure. -/
def Document.ofFile (fs : Files) (path : String) : Except Failure (Option Document) :=
  let p := Path.ofText path
  if '\x00' ∈ path.toList then .error .nullInPath
  else
    match fs.find? p with
    | none => .ok none
    | some file => Document.load p.text file.bytes

/-- Builds the model of the document at a path; gives nothing if it cannot be loaded. -/
def Model.ofFile (config : Config) (registry : Registry) (fs : Files) (path : String) :
    Outcome (Option Built) := do
  match ← Outcome.ofExcept (Document.ofFile fs path) with
  | none => return none
  | some d => return some (← Model.ofDocument config registry d)

/-- Builds the model of a document that is held in memory; gives nothing if it cannot be loaded. -/
def Model.ofBuffer (config : Config) (registry : Registry) (bytes : List UInt8) :
    Outcome (Option Built) := do
  match ← Outcome.ofExcept (Document.load Document.bufferSource bytes) with
  | none => return none
  | some d => return some (← Model.ofDocument config registry d)

/-- The models of several documents that share a registry, as far as they are built. -/
structure ModelSet where
  /-- The models of the documents that could be loaded. -/
  models : List Model := []
  registry : Registry := .empty
  warnings : List Warning := []
  /-- What ended the work before the last document. -/
  failure : Option Failure := none

namespace ModelSet

/-- Adds the model of the document at a path. Nothing is added behind a failure. -/
def add (config : Config) (fs : Files) (s : ModelSet) (path : String) : ModelSet :=
  if s.failure.isSome then s
  else
    let o := Model.ofFile config s.registry fs path
    let s := { s with warnings := s.warnings ++ o.warnings }
    match o.result with
    | .error e => { s with failure := some e }
    | .ok none => { s with warnings := s.warnings ++ [.skipped path] }
    | .ok (some b) => { s with models := s.models ++ [b.model], registry := b.registry }

/-- The models of the documents at several paths, in order. -/
def ofFiles (config : Config) (registry : Registry) (fs : Files) (paths : List String) : ModelSet :=
  paths.foldl (add config fs) { registry }

end ModelSet

end Introspection
