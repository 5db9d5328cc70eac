import Introspection.CommandLine.Command
import Introspection.Config.Reader
import Introspection.Entity.Json
import Introspection.Json.Printer
import Introspection.Model.Json
import Introspection.Model.Load
import Introspection.Stub.Walk

/-!
# Answers of the commands

* `summaryCommand`, `emitCommand`, `lookupCommand`, `ancestryCommand`: the answers of the commands;
* `documents`, `run`: the files that a command line names, and the answer to it.
-/

namespace Introspection.CommandLine

def line (s : String) : String := s ++ "\n"

/-- A complaint that is no misfit of words. -/
def complaint (s : String) : String := line ("✗ " ++ s)

def cannotLoad (file : String) : Reply := { exit := 1, err := complaint ("Cannot load " ++ file) }

def modelSet (fs : Files) (config : Option String) (files : List String) : Outcome ModelSet := do
  let c ← Config.readOptional config
  let s := ModelSet.ofFiles c .empty fs files
  Outcome.warnAll s.warnings
  match s.failure with
  | some e => Outcome.fail e
  | none => return s

/-- The summaries of documents; fails if one of them cannot be loaded. -/
def summaryCommand (fs : Files) (config : Option String) (files : List String) :
    Outcome Reply := do
  let s ← modelSet fs config files
  let complete := s.models.length = files.length
  return {
    exit := if s.models ≠ [] ∧ complete then 0 else 1
    out := line (Json.list (s.models.map Model.summary)).print
    err := if complete then "" else complaint "Some documents could not be loaded" }

def emitCommand (fs : Files) (file : String) : Outcome Reply := do
  match ← Outcome.ofExcept (Document.ofFile fs file) with
  | none => return cannotLoad file
  | some d => return { exit := 0, out := d.stub }

def lookupCommand (fs : Files) (config : Option String) (file name : String) : Outcome Reply := do
  let c ← Config.readOptional config
  match ← Model.ofFile c .empty fs file with
  | none => return cannotLoad file
  | some b =>
    match b.model.find? name with
    | none => return { exit := 1, err := complaint ("No type named " ++ name) }
    | some e => return { exit := 0, out := line e.json.print }

/-- A class with its ancestors, one name on a line. -/
def ancestryCommand (fs : Files) (config : Option String) (name : String) (files : List String) :
    Outcome Reply := do
  let s ← modelSet fs config files
  if s.models.isEmpty then
    return { exit := 1, err := complaint "No document could be loaded" }
  match s.registry.lookup name with
  | some (.objectClass c) =>
    return {
      exit := 0
      out := String.join ((c.name :: (s.registry.ancestry c).map (·.name)).map line) }
  | _ => return { exit := 1, err := complaint ("No class named " ++ name) }

def Invocation.run (fs : Files) (i : Invocation) : Outcome Reply :=
  match i.command with
  | none => .ok { exit := 1, out := mainHelp }
  | some (.summary files) => summaryCommand fs i.config files
  | some (.emit file) => emitCommand fs file
  | some (.lookup file name) => lookupCommand fs i.config file name
  | some (.ancestry name files) => ancestryCommand fs i.config name files

/-- The files that a command line names as documents. -/
def documents (args : List String) : List String :=
  match Invocation.read args with
  | .ok ⟨some c, _⟩ => c.documents
  | _ => []

def run (fs : Files) (args : List String) : Outcome Reply :=
  match Invocation.read args with
  | .error r => .ok r
  | .ok i => i.run fs

end Introspection.CommandLine
