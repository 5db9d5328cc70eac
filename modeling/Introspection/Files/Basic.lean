import Introspection.Files.Path

/-!
# Files

The files that documents are read from, with the times of their last modification.

* `Found`, `Files`: files and folders by their direct paths, which hold no detours;
* `Files.found?`, `Files.find?`: what a path leads to, and the file that it leads to;
* `Files.write`, `Files.delete`: changes.
-/

namespace Introspection

/-- A file. -/
structure File where
  bytes : List UInt8
  /-- When the file was written. -/
  modified : Rat
deriving DecidableEq, Repr

/-- What can be at a place. -/
inductive Found where
  | file (f : File)
  /-- A folder, with the time at which something in it last came or went. -/
  | folder (modified : Rat)
deriving DecidableEq, Repr

namespace Found

def modified : Found → Rat
  | .file f => f.modified
  | .folder t => t

def file? : Found → Option File
  | .file f => some f
  | .folder _ => none

def isFolder : Found → Bool
  | .file _ => false
  | .folder _ => true

end Found

/-- Files and folders, each by its direct path; the first one at a place counts. -/
structure Files where
  places : List (Path × Found) := [(⟨"", []⟩, .folder 0), (⟨"/", []⟩, .folder 0)]
deriving Repr

namespace Files

/-- What is at a place. -/
def at? (fs : Files) (q : Path) : Option Found := fs.places.lookup q

/-- The file at a place. -/
def fileAt? (fs : Files) (q : Path) : Option File := (fs.at? q).bind Found.file?

def hasFolder (fs : Files) (q : Path) : Bool := (fs.at? q).any Found.isFolder

/-- Follows names from a place, one after the other; two dots lead up. Gives the direct path, if
every place on the way is a folder. -/
def follow (fs : Files) : Path → List String → Option Path
  | here, [] => some here
  | here, n :: ns => if fs.hasFolder here then fs.follow (here.step n) ns else none

/-- The direct path to where a path leads. -/
def locate? (fs : Files) (p : Path) : Option Path := fs.follow p.base p.names

/-- What a path leads to. -/
def found? (fs : Files) (p : Path) : Option Found := (fs.locate? p).bind fs.at?

/-- The file that a path leads to. -/
def find? (fs : Files) (p : Path) : Option File := (fs.locate? p).bind fs.fileAt?

/-- The places that names lead through from a folder, that folder first. -/
def trail : Path → List String → List Path
  | here, [] => [here]
  | here, n :: ns => here :: trail (here.step n) ns

/-- Where a file is written. -/
def place (p : Path) : Path := (trail p.base p.names).getLastD p.base

/-- The folders on the way to a file. -/
def way (p : Path) : List Path := (trail p.base p.names).dropLast

/-- The folders in which something comes to be when a file is written: those that are made, and
those in which the next one on the way or the file is new. -/
def grown (fs : Files) (p : Path) : List Path :=
  ((way p).zip (trail p.base p.names).tail).filterMap fun (q, next) =>
    if (fs.at? q).isNone || (fs.at? next).isNone then some q else none

/-- Writes a file, and makes the folders on the way to it that are missing; the time is that of
folders which change by this. Nothing is written in place of a folder or behind a file. -/
def write (fs : Files) (p : Path) (file : File) (time : Rat) : Files :=
  if fs.hasFolder (place p) || (way p).any fun q => (fs.fileAt? q).isSome then fs
  else
    { places := (place p, .file file) :: (fs.grown p).map (·, .folder time) ++ fs.places }

/-- Deletes a file; the time is that of the folder that it was in. -/
def delete (fs : Files) (p : Path) (time : Rat) : Files :=
  match fs.locate? p with
  | none => fs
  | some q =>
    if (fs.fileAt? q).isSome then
      { places := ((way p).getLast?.map (·, .folder time)).toList ++ fs.places.filter (·.1 ≠ q) }
    else fs

end Files

end Introspection
