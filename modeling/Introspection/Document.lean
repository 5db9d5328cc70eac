import Introspection.Failure
import Introspection.Text.Case
import Introspection.Text.Integer
import Introspection.Text.Piece
import Introspection.Xml.Namespace
import Introspection.Xml.Path

/-!
# Introspection documents

A loaded document and the look-ups that an introspection document needs.

* `Document`, `Document.load`: a document and its loading from bytes;
* `Document.tree`: the elements in document order with their depths;
* `Document.query`, `Document.xpath`, `Document.findFirst?`: path queries with a prefix for the
  root's namespace;
* `Element.flag`, `Element.subAttributes`: numeric flags and lists in attributes.
-/

namespace Introspection

open Xml

/-- A loaded document. -/
structure Document where
  root : Element
  /-- The first namespace that each prefix is bound to, in document order. -/
  declared : List (String × String)
  source : String
deriving Repr

/-- The first binding of each prefix; the empty prefix stands for the default namespace. -/
def firstBindings (bs : List (Option String × String)) : List (String × String) :=
  bs.foldl (fun done (p, space) =>
    let p := p.getD ""
    if (done.lookup p).isSome then done else done ++ [(p, space)]) []

/-- How a fault is told, unless it only means that there is no document. -/
def Xml.Fault.failure? : Fault → Option Failure
  | .malformed => none
  | .unknownEncoding name => some (.unknownEncoding name)
  | .multiByteEncoding => some .multiByteEncoding
  | .notTextEncoding name => some (.notTextEncoding name)
  | .strictEncoding name reason => some (.strictEncoding name reason)
  | .punycodeEncoding => some .punycodeEncoding

namespace Document

/-- The document with the given characters, if they are well formed. -/
def ofSource? (source : String) (s : Source) : Option Document := do
  let m ← Markup.ofSource? s
  let root ← m.toElement?
  return ⟨root, firstBindings m.bindings, source⟩

/-- Loads a document from bytes; gives nothing if it is not well formed. -/
def load (source : String) (bytes : List UInt8) : Except Failure (Option Document) :=
  match Source.ofBytes bytes with
  | .ok s => .ok (ofSource? source s)
  | .error fault => fault.failure?.elim (.ok none) .error

/-- The source of documents that are held in memory. -/
def bufferSource : String := "<buffer>"

def loadText (text : String) : Except Failure (Option Document) :=
  load bufferSource text.toUTF8.toList

def rootSpace (d : Document) : String := d.root.name.space

/-- The prefixes of path queries: those that the document declares, and one more for the namespace
of the root element. -/
def prefixes (d : Document) (rootPrefix : String) : List (String × String) :=
  (rootPrefix, d.rootSpace) ::
    d.declared.filter fun (p, _) => p != "" && p != rootPrefix

/-- The nodes that a path selects from the root element. An empty path selects nothing that could be
put to use. -/
def query (d : Document) (use path rootPrefix : String) : Except Failure (List Node) := do
  let steps ← Path.read (d.prefixes rootPrefix) path
  if steps.isEmpty then .error (.emptyPath use) else .ok (Path.select steps ⟨d.root, 0⟩)

/-- The nodes that a path selects from the root element, as a list. -/
def xpath (d : Document) (path rootPrefix : String) : Except Failure (List Node) :=
  d.query "iterable" path rootPrefix

/-- The first node that a path selects from the root element. -/
def findFirst? (d : Document) (path rootPrefix : String) : Except Failure (Option Node) :=
  (d.query "an iterator" path rootPrefix).map List.head?

end Document

/-! ## The tree -/

/-- An element with its depth below the root. -/
structure Placed where
  element : Element
  level : Int
deriving Repr

/-- Visits the elements on a stack and everything below them, children before what lies deeper on
the stack. -/
def visit : Nat → List Placed → List Placed
  | 0, _ => []
  | _ + 1, [] => []
  | fuel + 1, p :: stack =>
    p :: visit fuel (p.element.children.map (⟨·, p.level + 1⟩) ++ stack)

/-- The elements of a document in document order with their depths. -/
def Document.tree (d : Document) : List Placed := visit d.root.size [⟨d.root, 0⟩]

/-! ## Attributes -/

/-- Reads a numeric flag: a number other than zero, or the word `true`. -/
def Xml.Element.flag (e : Element) (name : String) : Bool :=
  match e.attribute? name with
  | none => false
  | some raw =>
    match Text.readInteger? raw with
    | some n => n != 0
    | none => Text.lower (String.ofList (Text.trim raw.toList)) == "true"

/-- Whether a piece of a list comes before another: the longer first, then by code points. -/
def pieceLE (a b : String) : Bool :=
  b.length < a.length || (a.length == b.length && decide (a ≤ b))

/-- The pieces of a list in an attribute, without empty ones, the longest first. -/
def Xml.Element.subAttributes (e : Element) (name delimiter : String) :
    Except Failure (List String) :=
  match e.attribute? name with
  | none => .ok []
  | some raw =>
    if delimiter = "" then .error .emptyDelimiter
    else
      let pieces := (Text.splitOn delimiter.toList raw.toList).filter (!·.isEmpty)
      .ok ((pieces.map String.ofList).mergeSort pieceLE)

end Introspection
