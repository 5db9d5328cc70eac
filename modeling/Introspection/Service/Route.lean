import Introspection.Text.Piece

/-!
# Routes

The paths of a service and what they stand for.

* `Route`, `Route.ofPath?`: what a path stands for;
* `withoutSlashes?`: a path without slashes at its end.
-/

namespace Introspection.Service

open Text

/-- What a path stands for. -/
inductive Route where
  | health
  | metadata
  | types
  | detail (name : String)
  | lineage (name : String)
  | search
  | diagnostics
  | stub
deriving DecidableEq, Repr

/-- The parts of a path between slashes. -/
def partsOf (path : String) : List String :=
  (splitOn ['/'] path.toList).map String.ofList

def Route.ofParts? : List String → Option Route
  | ["", "health"] => some .health
  | ["", "metadata"] => some .metadata
  | ["", "types"] => some .types
  | ["", "types", name] => if name = "" then none else some (.detail name)
  | ["", "classes", name, "ancestry"] => if name = "" then none else some (.lineage name)
  | ["", "search"] => some .search
  | ["", "diagnostics"] => some .diagnostics
  | ["", "emit"] => some .stub
  | _ => none

/-- A path without a line end behind it. -/
def withoutLineEnd (path : String) : String :=
  String.ofList ((withoutSuffix? ['\n'] path.toList).getD path.toList)

/-- What a path stands for. A line end behind a path does not count, unless it belongs to the name
that the path ends with. -/
def Route.ofPath? (path : String) : Option Route :=
  (ofParts? (partsOf path)).or (ofParts? (partsOf (withoutLineEnd path)))

/-- A path without slashes at its end, if it has any. -/
def withoutSlashes? (path : String) : Option String :=
  let rest := (path.toList.reverse.dropWhile (· == '/')).reverse
  if rest.length < path.length then some (String.ofList rest) else none

end Introspection.Service
