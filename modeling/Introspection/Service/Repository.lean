import Introspection.Cache.Parser
import Introspection.Model.Json
import Introspection.Stub.Walk

/-!
# Repositories

A repository holds the model of the document that a service is about. If that document cannot be
used, a small one that is part of the library stands in for it.

* `embeddedText`: the document that stands in for others;
* `Repository`, `Repository.ofPath`: a model with its tag, through a cache that repositories share;
* `tagText`: what the tag of a repository is made of;
* `Repository.document`: the document as it is by now.
-/

namespace Introspection

/-- The document that is served in place of an unusable one. -/
def embeddedText : String :=
  Document.linesText [
    "<?xml version=\"1.0\"?>",
    "<repository version=\"1.2\"",
    "            xmlns=\"http://www.gtk.org/introspection/core/1.0\"",
    "            xmlns:c=\"http://www.gtk.org/introspection/c/1.0\"",
    "            xmlns:glib=\"http://www.gtk.org/introspection/glib/1.0\">",
    "  <namespace name=\"Fallback\" version=\"1.0\"",
    "             c:identifier-prefixes=\"Fallback\" c:symbol-prefixes=\"fallback\">",
    "    <alias name=\"Id\" c:type=\"FallbackId\">",
    "      <type name=\"guint32\" c:type=\"guint32\"/>",
    "    </alias>",
    "    <class name=\"Object\" c:type=\"FallbackObject\" glib:type-name=\"FallbackObject\"",
    "           glib:get-type=\"fallback_object_get_type\" c:symbol-prefix=\"object\"/>",
    "  </namespace>",
    "</repository>"]

/-- The model that a service is about. -/
structure Repository where
  config : Config
  /-- The path of the document, in its normal form; nothing if the embedded one is served. -/
  path : Option String
  model : Model
  registry : Registry
  /-- What tells this version of the model apart from others. -/
  tag : String
deriving Repr

/-- What the tag of a repository is made of: the configuration, the source and the digest of the
file that was read. -/
def tagText (config : Config) (source : String) (digest : Option String) : String :=
  config.text ++ "-" ++ source ++ (match digest with
    | some d => "-" ++ d
    | none => "")

namespace Repository

/-- The name of the embedded document where a source is named. -/
def embeddedSource : String := "fallback"

/-- Where the model of a repository comes from. -/
def source (r : Repository) : String := r.path.getD embeddedSource

/-- A repository with its tag, which stands between double quotes. -/
def ofBuilt (config : Config) (path digest : Option String) (b : Built) : Repository where
  config := config
  path := path
  model := b.model
  registry := b.registry
  tag := "\"" ++ Md5.ofText (tagText config (path.getD embeddedSource) digest) ++ "\""

/-- The repository of the embedded document. -/
def ofEmbedded (config : Config) : Outcome Repository := do
  match ← Outcome.ofExcept (Document.loadText embeddedText) with
  | none => Outcome.fail .noEmbedded
  | some d => return ofBuilt config none none (← Model.ofDocument config .empty d)

/-- The repository of the document at a path, or of the embedded one if there is no path or nothing
that can be loaded there. -/
def ofPath {β : Type} (cache : Cache (Cached β)) (now : Float) (fs : Files) (path : Option String)
    (config : Config) : Cache (Cached β) × Outcome Repository :=
  match path.filter (· ≠ "") with
  | none => (cache, ofEmbedded config)
  | some path =>
    let parser : Parser := { config }
    let source := (Path.ofText path).text
    let (cache, o) := parser.parse cache now fs (some path) false
    (cache, do
      match ← o with
      | some p => return ofBuilt config (some source) (some (cache.tag (parser.key path))) p.toBuilt
      | none => do
        Outcome.warn (.fallingBack source)
        ofEmbedded config)

/-- The document of a repository as it is by now. -/
def document (fs : Files) (r : Repository) : Except Failure (Option Document) :=
  match r.path with
  | some path => Document.ofFile fs path
  | none => Document.loadText embeddedText

/-- The configuration of a repository as far as it is shown. -/
def configJson (r : Repository) : Json :=
  .object [("default_prefix", .text r.config.rootPrefix),
    ("prefix_delimiter", .text r.config.delimiter), ("blacklist", .texts r.config.blacklist.names),
    ("error_type_name", .text r.config.errorTypeName)]

/-- What is known about the model as a whole. -/
def metadata (r : Repository) : Json :=
  .object (Json.setField "source" (.text r.source) r.model.summaryFields ++
    [("builder_config", r.configJson)])

end Repository

end Introspection
