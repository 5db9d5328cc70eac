import Introspection.Cache.Basic
import Introspection.Cache.Key
import Introspection.Model.Load

/-!
# Cached models

A parser keeps the models that it builds in a cache, which it may share with other parsers. A model
is built again when its time is over or its document was written later.

* `Cached`: what a cache of models holds;
* `Parser`, `Parser.key`: a configuration with a document to fall back on, and the keys of models;
* `Parser.parse`: the model of a document, from the cache if it can be.
-/

namespace Introspection

/-- What a cache of models holds: models, and values that others have stored. -/
inductive Cached (β : Type) where
  | model (b : Built)
  | value (v : β)
deriving Repr

/-- A parser of documents under one configuration. -/
structure Parser where
  config : Config
  /-- The document that is parsed when none is named. -/
  path : Option String := none
deriving DecidableEq, Repr

/-- A model with the way it was come by. -/
inductive Parsed where
  | built (b : Built)
  | kept (b : Built)
deriving Repr

def Parsed.toBuilt : Parsed → Built
  | .built b => b
  | .kept b => b

namespace Parser

variable {β : Type}

/-- The key of the model of the document at a path. -/
def key (p : Parser) (path : String) : String := modelKey (Path.ofText path).text p.config

/-- The model with a key in a cache, unless it is stale. -/
def remembered? (cache : Cache (Cached β)) (now : Float) (key : String)
    (found : Option Found) : Cache (Cached β) × Option Built :=
  if cache.isStale key found then (cache, none)
  else
    match cache.get now key with
    | (cache, some (.model b)) => (cache, some b)
    | (cache, _) => (cache, none)

/-- Builds the model of the document at a path and stores it. -/
def rebuild (p : Parser) (cache : Cache (Cached β)) (now : Float) (fs : Files) (path : String) :
    Cache (Cached β) × Outcome (Option Parsed) :=
  let o := Model.ofFile p.config .empty fs path
  match o.result with
  | .ok (some b) =>
    match cache.setFound? now (p.key path) (.model b) none (fs.found? (Path.ofText path)) with
    | some cache => (cache, ⟨o.warnings, .ok (some (.built b))⟩)
    | none => (cache, ⟨o.warnings, .error (.isFolder (Path.ofText path).text)⟩)
  | .ok none => (cache, ⟨o.warnings, .ok none⟩)
  | .error e => (cache, ⟨o.warnings, .error e⟩)

/-- The model of the document at a path, from the cache unless it is to be refreshed. -/
def parseAt (p : Parser) (cache : Cache (Cached β)) (now : Float) (fs : Files) (path : String)
    (refresh : Bool) : Cache (Cached β) × Outcome (Option Parsed) :=
  if refresh then p.rebuild cache now fs path
  else
    match remembered? cache now (p.key path) (fs.found? (Path.ofText path)) with
    | (cache, some b) => (cache, .ok (some (.kept b)))
    | (cache, none) => p.rebuild cache now fs path

/-- The model of a document: of the one at the given path, or else of the parser's own. -/
def parse (p : Parser) (cache : Cache (Cached β)) (now : Float) (fs : Files) (path : Option String)
    (refresh : Bool) : Cache (Cached β) × Outcome (Option Parsed) :=
  match path.or p.path with
  | none => (cache, .fail .noPath)
  | some path => p.parseAt cache now fs path refresh

end Parser

end Introspection
