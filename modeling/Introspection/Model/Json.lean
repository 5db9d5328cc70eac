import Introspection.Entity.Json
import Introspection.Model.Basic

/-!
# Models as JSON

* `Model.summary`: the header of a model with the number of its entities and diagnostics;
* `Model.json`: the same with the entities.
-/

namespace Introspection.Model

def counts (m : Model) : Json :=
  .object (Category.all.map fun c => (c.plural, .integer (m.inCategory c).length))

def summaryFields (m : Model) : List (String × Json) :=
  [("source", .text m.source), ("namespace", .text m.space),
    ("identifier_prefixes", .texts m.identifierPrefixes),
    ("symbol_prefixes", .texts m.symbolPrefixes), ("error_type", .text m.errorType),
    ("counts", m.counts), ("diagnostics", .integer m.diagnostics.length)]

/-- A model without its entities. -/
def summary (m : Model) : Json := .object m.summaryFields

def json (m : Model) : Json :=
  .object (m.summaryFields ++ [("types", .list (m.types.map Entity.json))])

end Introspection.Model
