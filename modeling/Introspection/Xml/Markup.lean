import Introspection.Xml.Doctype
import Introspection.Xml.Encoding

/-!
# Markup trees

The tree of a document as written: names with their prefixes, attribute values after expansion,
defaulted attributes behind the specified ones, comments and instructions gone.

* `Tag`, `Markup`;
* `readTag?`: the reader of start tags;
* `readContent?`: the reader of what stands between tags, entities replaced;
* `Markup.ofSource?`: the reader of a document.
-/

namespace Introspection.Xml

/-- A start tag. -/
structure Tag where
  name : Label
  attributes : List (Label × String)
deriving DecidableEq, Repr

/-- A piece of content: character data, or an element with its content. -/
inductive Markup where
  | text (s : String)
  | element (tag : Tag) (content : List Markup)

/-! ## Start tags -/

/-- Reads the attributes of a start tag up to its end, and says whether the tag closes itself. -/
def readAttributes? (d : Doctype) (element : Label) :
    Nat → Nat → List (Label × String) → List Char →
      Option (List (Label × String) × Bool × Nat × List Char)
  | 0, _, _, _ => none
  | fuel + 1, budget, done, cs =>
    match cs.dropWhile isSpace with
    | '>' :: rest => some (done.reverse, false, budget, rest)
    | '/' :: '>' :: rest => some (done.reverse, true, budget, rest)
    | rest => do
      if !(cs.head?.any isSpace) then none
      let (name, rest) ← readLabel? rest
      let '=' :: rest := rest.dropWhile isSpace | none
      let quote :: rest := rest.dropWhile isSpace | none
      if quote != '"' && quote != '\'' then none
      let value := rest.takeWhile (· != quote)
      let _ :: rest := rest.drop value.length | none
      if done.any (·.1 == name) then none
      let rule := d.rules.find? fun r => r.element == element && r.name == name
      let (value, budget) ← d.expandValue (rule.any (·.tokenized)) budget value
      readAttributes? d element fuel budget ((name, String.ofList value) :: done) rest

/-- The attributes of an element that were left out and have a default. -/
def Doctype.defaults (d : Doctype) (element : Label) (given : List (Label × String)) :
    List (Label × String) :=
  d.rules.filterMap fun r =>
    if r.element == element && !given.any (·.1 == r.name) then
      r.value.map fun v => (r.name, String.ofList v)
    else none

/-- Reads a start tag behind its opening, and says whether it closes itself. -/
def readTag? (d : Doctype) (budget : Nat) (cs : List Char) :
    Option (Tag × Bool × Nat × List Char) := do
  let (name, rest) ← readLabel? cs
  let (given, closed, budget, rest) ← readAttributes? d name (rest.length + 1) budget [] rest
  return (⟨name, given ++ d.defaults name given⟩, closed, budget, rest)

/-- Reads an end tag behind its opening. -/
def readEndTag? (cs : List Char) : Option (Label × List Char) := do
  let (name, rest) ← readLabel? cs
  match rest.dropWhile isSpace with
  | '>' :: rest => some (name, rest)
  | _ => none

/-! ## Content -/

/-- What follows a section of literal text whose opening has been read, behind that text, which
is reversed. -/
def readLiteralSection? (done : List Char) : List Char → Option (List Char × List Char)
  | [] => none
  | ']' :: ']' :: '>' :: cs => some (done, cs)
  | c :: cs => readLiteralSection? (c :: done) cs

/-- Whether a character of content stands for itself whatever follows. -/
def isPlain (c : Char) : Bool := c != '<' && c != '&' && c != ']'

/-- An element whose end has not been read yet. -/
structure Frame where
  tag : Tag
  /-- What stands before the element in its parent, reversed. -/
  before : List Markup

/-- Where a piece of content ends. -/
inductive Extent where
  | element
  | entity
deriving DecidableEq, Repr

/-- Reads content behind `done`, which is reversed; `inside` names the entities being replaced.
Gives what was read, reversed, with the remaining budget and the rest. -/
def readContent? (d : Doctype) : Nat → Extent → List String → Nat → List Frame → List Markup →
    List Char → Option (List Markup × Nat × List Char)
  | 0, _, _, _, _, _, _ => none
  | fuel + 1, extent, inside, budget, frames, done, cs =>
    match cs with
    | [] =>
      match extent, frames with
      | .entity, [] => some (done, budget, [])
      | _, _ => none
    | '<' :: '/' :: rest =>
      match readEndTag? rest, frames with
      | some (name, rest), frame :: frames =>
        if name = frame.tag.name then
          let done := .element frame.tag done.reverse :: frame.before
          if extent = .element ∧ frames.isEmpty then some (done, budget, rest)
          else readContent? d fuel extent inside budget frames done rest
        else none
      | _, _ => none
    | '<' :: '?' :: rest =>
      match skipInstruction? rest with
      | some rest => readContent? d fuel extent inside budget frames done rest
      | none => none
    | '<' :: '!' :: rest =>
      match after? "--".toList rest, after? "[CDATA[".toList rest with
      | some rest, _ =>
        match skipComment? rest with
        | some rest => readContent? d fuel extent inside budget frames done rest
        | none => none
      | none, some rest =>
        match readLiteralSection? [] rest with
        | some (text, rest) =>
          readContent? d fuel extent inside budget frames
            (.text (String.ofList text.reverse) :: done) rest
        | none => none
      | none, none => none
    | '<' :: rest =>
      match readTag? d budget rest with
      | some (tag, true, budget, rest) =>
        let done := .element tag [] :: done
        if extent = .element ∧ frames.isEmpty then some (done, budget, rest)
        else readContent? d fuel extent inside budget frames done rest
      | some (tag, false, budget, rest) =>
        readContent? d fuel extent inside budget (⟨tag, done⟩ :: frames) [] rest
      | none => none
    | '&' :: rest =>
      match readReference? rest with
      | none => none
      | some (.char c, rest) =>
        readContent? d fuel extent inside budget frames (.text (String.singleton c) :: done) rest
      | some (.entity name, rest) =>
        match predefined? name, d.entities.lookup name with
        | some c, _ =>
          readContent? d fuel extent inside budget frames (.text (String.singleton c) :: done) rest
        | none, some (.internal text) =>
          if name ∈ inside ∨ budget < byteCount text then none
          else
            match readContent? d fuel .entity (name :: inside) (budget - byteCount text) [] done
                text with
            | some (done, budget, _) =>
              readContent? d fuel extent inside budget frames done rest
            | none => none
        | none, _ => none
    | ']' :: ']' :: '>' :: _ => none
    | c :: rest =>
      readContent? d fuel extent inside budget frames
        (.text (String.ofList (c :: rest.takeWhile isPlain)) :: done) (rest.dropWhile isPlain)

/-! ## Documents -/

/-- What follows blanks, comments and instructions. -/
def skipMisc? : Nat → List Char → Option (List Char)
  | 0, _ => none
  | fuel + 1, cs =>
    match cs.dropWhile isSpace with
    | '<' :: '?' :: rest => (skipInstruction? rest).bind (skipMisc? fuel)
    | '<' :: '!' :: '-' :: '-' :: rest => (skipComment? rest).bind (skipMisc? fuel)
    | rest => some rest

/-- The root of a document with the given characters. -/
def Markup.ofSource? (s : Source) : Option Markup := do
  let length := s.text.length
  let budget := expansionLimit (byteCount s.text)
  let rest ← skipMisc? (length + 1) s.text
  let (d, rest) ← match after? "<!DOCTYPE".toList rest with
    | some rest => do
      let (d, rest) ← readDoctype? s.standalone budget rest
      pure (d, ← skipMisc? (length + 1) rest)
    | none => some (Doctype.initial s.standalone, rest)
  match rest with
  | '<' :: c :: _ =>
    if !isNameStart c then none
    let ([root], _, rest) ← readContent? d (length + d.weight + 1) .element [] budget [] [] rest
      | none
    match ← skipMisc? (length + 1) rest with
    | [] => some root
    | _ => none
  | _ => none

end Introspection.Xml
