import Introspection.Stub.Rule

/-!
# Walks

A stub has one line for each node of a document. The nodes come one after the other with their
levels; a stack of frames remembers which rules the node at hand meets.

* `Frame`, `Walk`: the rules for the nodes of one level, and the stack of them;
* `Walk.step`, `Walk.run`: the line of a node, and the lines of several;
* `Document.stubLines`, `Document.stub`: the stub of a document.
-/

namespace Introspection.Stub

/-- The rules for the nodes of a level. -/
structure Frame where
  table : Table
  level : Int
  /-- The node below which the rules hold. -/
  opener : Option Xml.Element := none
  /-- The lines of the nodes that met this frame, the latest first. -/
  written : List String := []
deriving Repr

namespace Frame

/-- The rule for a node, if the frame is for its level and has one for its tag. -/
def rule? (f : Frame) (p : Placed) : Option Rule :=
  if f.level = p.level then f.table.lookup p.element.tag else none

/-- The lines of the nodes that met this frame. -/
def outputs (f : Frame) : List String := f.written.reverse

def write (f : Frame) (line : String) : Frame := { f with written := line :: f.written }

end Frame

/-- A stack of frames, never empty, with what was noticed on the way. -/
structure Walk where
  top : Frame
  /-- The frames below the top one, the nearest first. -/
  below : List Frame := []
  /-- What was noticed, the latest first. -/
  noticed : List Diagnostic := []
deriving Repr

/-- Leaves the frames of deeper levels. -/
def settle (level : Int) : Frame → List Frame → Frame × List Frame
  | f, [] => (f, [])
  | f, g :: gs => if level < f.level then settle level g gs else (f, g :: gs)

namespace Walk

/-- The walk at its start with the rules for the root element. -/
def start (table : Table) : Walk := { top := { table, level := 0 } }

def diagnostics (w : Walk) : List Diagnostic := w.noticed.reverse

def unhandled (w : Walk) : Nat := w.noticed.length

/-- The lowest frame. -/
def root (w : Walk) : Frame := w.below.getLastD w.top

/-- The line of a node that meets no rule. -/
def unhandledLine (p : Placed) (f : Frame) : String :=
  indented p.level ("# unhandled: " ++ p.element.tag ++ " @ " ++ levels p.level f.level)

/-- Goes to the next node; gives its line. -/
def step (w : Walk) (p : Placed) : Walk × String :=
  let (f, below) := settle p.level w.top w.below
  match f.rule? p with
  | none =>
    let line := unhandledLine p f
    ({ top := f.write line, below
       noticed := .unhandled p.element.tag p.level :: w.noticed }, line)
  | some r =>
    let line := r.line p.element p.level f.level f.opener
    match r.table? with
    | none => ({ w with top := f.write line, below }, line)
    | some table =>
      ({ w with
          top := { table, level := p.level + 1, opener := some p.element }
          below := f.write line :: below }, line)

/-- Goes through several nodes; gives their lines. -/
def run (w : Walk) : List Placed → Walk × List String
  | [] => (w, [])
  | p :: ps =>
    let (w, line) := w.step p
    let (w, lines) := w.run ps
    (w, line :: lines)

end Walk

end Introspection.Stub

namespace Introspection

namespace Document

def stubLines (d : Document) : List String := ((Stub.Walk.start .root).run d.tree).2

/-- Lines as a text in which every line ends. -/
def linesText (lines : List String) : String := String.join (lines.map (· ++ "\n"))

def stub (d : Document) : String := linesText d.stubLines

end Document

end Introspection
