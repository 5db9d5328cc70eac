import Introspection.Text.Hex
import Introspection.Xml.Character

/-!
# Small parts of markup

Readers take a text and give what they read with the rest of the text, or nothing if the text does
not begin with it.

* `after?`: what follows a fixed beginning;
* `Label`: a name as written, with an optional namespace prefix;
* `Reference`: a reference to a character or to an entity;
* `skipComment?`, `skipInstruction?`: the parts of a document that say nothing about its tree.
-/

namespace Introspection.Xml

/-- What follows a fixed beginning of a text. -/
def after? : List Char → List Char → Option (List Char)
  | [], cs => some cs
  | _ :: _, [] => none
  | p :: ps, c :: cs => if p = c then after? ps cs else none

/-- A name as written: a name without colons, or two of them joined by a colon. -/
structure Label where
  /-- The part before the colon. -/
  qualifier : Option String
  /-- The part after the colon. -/
  base : String
deriving DecidableEq, Repr, Inhabited

/-- A label without a qualifier. -/
def Label.plain (name : String) : Label := ⟨none, name⟩

/-- Reads a name without colons. -/
def readName? (cs : List Char) : Option (String × List Char) :=
  match cs with
  | [] => none
  | c :: rest =>
    if isNameStart c then
      some (String.ofList (c :: rest.takeWhile isNameChar), rest.dropWhile isNameChar)
    else none

def readLabel? (cs : List Char) : Option (Label × List Char) := do
  let (first, rest) ← readName? cs
  match rest with
  | ':' :: rest => do
    let (second, rest) ← readName? rest
    return (⟨some first, second⟩, rest)
  | rest => return (⟨none, first⟩, rest)

/-- A reference to a character by its number, or to an entity by its name. -/
inductive Reference where
  | char (c : Char)
  | entity (name : String)
deriving DecidableEq, Repr

/-- The number that digits of a base denote, and none for no digits or a foreign sign. -/
def readNumeral? (base : Nat) (ds : List Char) : Option Nat :=
  if ds.isEmpty then none
  else ds.foldlM (fun n c => (Text.hexValue? c).bind fun d =>
    if d < base then some (base * n + d) else none) 0

/-- The character with a number, if a document may hold it. -/
def charOfNumber? (n : Nat) : Option Char :=
  if h : n.isValidChar then
    let c := Char.ofNatAux n h
    if isAllowed c then some c else none
  else none

/-- Reads a reference behind its ampersand. -/
def readReference? (cs : List Char) : Option (Reference × List Char) :=
  match cs with
  | '#' :: rest =>
    let digits := rest.takeWhile (· != ';')
    let number := match digits with
      | 'x' :: ds => readNumeral? 16 ds
      | ds => readNumeral? 10 ds
    match number.bind charOfNumber?, rest.drop digits.length with
    | some c, ';' :: rest => some (.char c, rest)
    | _, _ => none
  | cs =>
    match readName? cs with
    | some (name, ';' :: rest) => some (.entity name, rest)
    | _ => none

/-- The character of an entity that every document knows. -/
def predefined? (name : String) : Option Char :=
  if name = "lt" then some '<'
  else if name = "gt" then some '>'
  else if name = "amp" then some '&'
  else if name = "quot" then some '"'
  else if name = "apos" then some '\''
  else none

/-- What follows a comment whose opening has been read; two hyphens may only stand at its end. -/
def skipComment? : List Char → Option (List Char)
  | [] => none
  | '-' :: '-' :: '>' :: cs => some cs
  | '-' :: '-' :: _ => none
  | _ :: cs => skipComment? cs

/-- What follows the closing of a processing instruction. -/
def skipToInstructionEnd? : List Char → Option (List Char)
  | [] => none
  | '?' :: '>' :: cs => some cs
  | _ :: cs => skipToInstructionEnd? cs

/-- What follows a processing instruction whose opening has been read. Its target is a name other
than `xml` in any case, and blanks part the target from the text. -/
def skipInstruction? (cs : List Char) : Option (List Char) := do
  let (target, rest) ← readName? cs
  if target.toLower = "xml" then none
  match rest with
  | '?' :: '>' :: rest => some rest
  | c :: rest => if isSpace c then skipToInstructionEnd? rest else none
  | [] => none

end Introspection.Xml
