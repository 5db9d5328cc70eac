import Introspection.Text.Piece

/-!
# Paths of files

A path is written as names with slashes between them. Empty names and single dots are dropped from
its normal form, two dots stay.

* `Path`, `Path.ofText`, `Path.text`: a path and its normal form;
* `Path.child`, `Path.up`, `Path.step`: one step down or up.
-/

namespace Introspection

/-- A path: its slashes in front and its names. -/
structure Path where
  root : String
  names : List String
deriving DecidableEq, Repr

namespace Path

/-- The slashes that a path starts with: exactly two stay two, any other number counts as one. -/
def rootOf (cs : List Char) : String :=
  match (cs.takeWhile (· == '/')).length with
  | 0 => ""
  | 2 => "//"
  | _ => "/"

/-- The path that a text denotes. -/
def ofText (text : String) : Path where
  root := rootOf text.toList
  names := ((Text.splitOn ['/'] text.toList).map String.ofList).filter fun n =>
    n != "" && n != "."

/-- The normal form of a path; the path without names is a dot. -/
def text (p : Path) : String :=
  if p.root = "" ∧ p.names = [] then "." else p.root ++ String.intercalate "/" p.names

def child (p : Path) (name : String) : Path := { p with names := p.names ++ [name] }

/-- The path to the folder that holds a folder. Nothing holds the topmost folder; above the folder
that relative paths start from, two dots are a name like any other. -/
def up (p : Path) : Path :=
  if p.root ≠ "" then { p with names := p.names.dropLast }
  else if p.names.all (· == "..") then p.child ".."
  else { p with names := p.names.dropLast }

/-- One step from a folder; two dots lead up. -/
def step (p : Path) (name : String) : Path := if name = ".." then p.up else p.child name

/-- The path of the topmost folder or of the folder that relative paths start from. -/
def base (p : Path) : Path := ⟨if p.root = "" then "" else "/", []⟩

end Path

end Introspection
