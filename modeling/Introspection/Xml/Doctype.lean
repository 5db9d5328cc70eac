import Introspection.Text.Piece
import Introspection.Xml.Lexeme

/-!
# Document types

What the internal part of a document type declaration says about entities and attributes. External
parts are never read.

* `Doctype`: the entities and attribute rules in force;
* `Doctype.expandValue`: an attribute value with its references replaced and its blanks normalized;
* `Lexeme`, `readLexemes?`: the words and signs of a declaration;
* `readDoctype?`: the reader.

Expansion of entities is bounded twice: an entity may not stand for itself, and the bytes that
entities contribute may not exceed a budget.
-/

namespace Introspection.Xml

/-- What an entity stands for. -/
inductive Definition where
  /-- A text given in the declaration. -/
  | internal (text : List Char)
  /-- Something outside the document, which is never read. -/
  | external
deriving DecidableEq, Repr

/-- What is declared about one attribute of an element. -/
structure AttributeRule where
  element : Label
  name : Label
  /-- Whether runs of spaces in the value count as one. -/
  tokenized : Bool
  /-- The value of an attribute that is left out. -/
  value : Option (List Char)
deriving DecidableEq, Repr

/-- The declarations in force. -/
structure Doctype where
  /-- Whether the document declares that it stands alone. -/
  standalone : Bool
  /-- The entities in order of declaration; the first one of a name counts. -/
  entities : List (String × Definition)
  /-- The attribute rules in order of declaration. -/
  rules : List AttributeRule
  /-- Whether there may be declarations in parts that are not read. -/
  external : Bool
  /-- Whether further declarations still count. -/
  counting : Bool
deriving DecidableEq, Repr

/-- The document type of a document without declarations. -/
def Doctype.initial (standalone : Bool) : Doctype := ⟨standalone, [], [], false, true⟩

/-- Whether a reference to an entity that is not declared is tolerated. -/
def Doctype.lenient (d : Doctype) : Bool := d.external && !d.standalone

/-- A bound on the number of steps that the texts of all entities take. -/
def Doctype.weight (d : Doctype) : Nat :=
  d.entities.foldr (fun e n => match e.2 with
    | .internal text => text.length + 1 + n
    | .external => 1 + n) 0

/-- The bytes that a text has in UTF-8. -/
def byteCount (cs : List Char) : Nat := cs.foldl (fun n c => n + c.utf8Size) 0

/-- The bytes that entities may contribute to a document of a number of bytes: together they have
fewer than eight mebibytes, or at most a hundred times as many as the document. -/
def expansionLimit (bytes : Nat) : Nat := max (8388607 - bytes) (99 * bytes)

/-! ## Attribute values -/

/-- The rest of an attribute value behind `done`, which is reversed, with references replaced and
white space written as spaces; `inside` names the entities being replaced. -/
def Doctype.expand (d : Doctype) : Nat → List String → Nat → List Char → List Char →
    Option (List Char × Nat)
  | 0, _, _, _, _ => none
  | _ + 1, _, budget, done, [] => some (done, budget)
  | fuel + 1, inside, budget, done, c :: cs =>
    if c = '<' then none
    else if isSpace c then d.expand fuel inside budget (' ' :: done) cs
    else if c = '&' then
      match readReference? cs with
      | none => none
      | some (.char c, rest) => d.expand fuel inside budget (c :: done) rest
      | some (.entity name, rest) =>
        match predefined? name, d.entities.lookup name with
        | some c, _ => d.expand fuel inside budget (c :: done) rest
        | none, none => if d.lenient then d.expand fuel inside budget done rest else none
        | none, some .external => none
        | none, some (.internal text) =>
          if name ∈ inside ∨ budget < byteCount text then none
          else
            match d.expand fuel (name :: inside) (budget - byteCount text) done text with
            | none => none
            | some (done, budget) => d.expand fuel inside budget done rest
    else d.expand fuel inside budget (c :: done) cs

/-- A text with its runs of spaces made single and none at its ends. -/
def squeeze (cs : List Char) : List Char :=
  [' '].intercalate ((Text.splitOn [' '] cs).filter (!·.isEmpty))

/-- The value of an attribute as written between its quotes. -/
def Doctype.expandValue (d : Doctype) (tokenized : Bool) (budget : Nat) (cs : List Char) :
    Option (List Char × Nat) :=
  (d.expand (cs.length + d.weight + 1) [] budget [] cs).map fun (done, budget) =>
    (if tokenized then squeeze done.reverse else done.reverse, budget)

/-! ## Words and signs of declarations -/

/-- A word or sign of a declaration. -/
inductive Lexeme where
  /-- A name, possibly with a qualifier. -/
  | label (l : Label)
  /-- A name with a sign of repetition behind it. -/
  | repeated (l : Label)
  /-- A word that is no name. -/
  | token (s : String)
  /-- A name behind a number sign. -/
  | hash (s : String)
  | literal (cs : List Char)
  | percent
  | opening
  /-- A closing parenthesis, with the sign of repetition behind it. -/
  | closing (sign : Option Char)
  | comma
  | bar
deriving DecidableEq, Repr

/-- Whether a character may follow a name in a declaration. -/
def endsName (c : Char) : Bool :=
  isSpace c || c == '>' || c == ')' || c == ',' || c == '|' || c == '[' || c == '%'

/-- Whether a character is a sign of repetition. -/
def isRepetition (c : Char) : Bool := c == '?' || c == '*' || c == '+'

/-- Sorts a word of name characters and colons into names and other words. -/
def classify (word : List Char) : Lexeme :=
  match word with
  | [] => .token ""
  | c :: _ =>
    match Text.splitOn [':'] word with
    | [_] =>
      if isNameStart c then .label ⟨none, String.ofList word⟩ else .token (String.ofList word)
    | [p, b] =>
      if isNameStart c ∧ b ≠ [] then .label ⟨some (String.ofList p), String.ofList b⟩
      else .token (String.ofList word)
    | _ => .token (String.ofList word)

/-- Reads a quoted literal; it must not touch the word that follows. -/
def readLiteral? (quote : Char) (cs : List Char) : Option (List Char × List Char) :=
  let value := cs.takeWhile (· != quote)
  match cs.drop value.length with
  | _ :: c :: rest =>
    if isSpace c || c == '>' || c == '%' || c == '[' then some (value, c :: rest) else none
  | _ => none

/-- Reads one word or sign. -/
def readLexeme? (cs : List Char) : Option (Lexeme × List Char) :=
  match cs with
  | [] => none
  | '"' :: cs => (readLiteral? '"' cs).map fun (v, rest) => (.literal v, rest)
  | '\'' :: cs => (readLiteral? '\'' cs).map fun (v, rest) => (.literal v, rest)
  | '(' :: cs => some (.opening, cs)
  | ',' :: cs => some (.comma, cs)
  | '|' :: cs => some (.bar, cs)
  | ')' :: c :: cs =>
    if isRepetition c then some (.closing (some c), cs)
    else if isSpace c || c == '>' || c == ',' || c == '|' || c == ')' then
      some (.closing none, c :: cs)
    else none
  | '%' :: c :: cs => if isSpace c || c == '%' then some (.percent, c :: cs) else none
  | '#' :: cs =>
    match readName? cs with
    | some (name, c :: rest) =>
      if endsName c && c != ',' && c != '[' then some (.hash name, c :: rest) else none
    | _ => none
  | cs =>
    let word := cs.takeWhile fun c => isNameChar c || c == ':'
    match word, cs.drop word.length with
    | [], _ => none
    | word, c :: rest =>
      if endsName c then some (classify word, c :: rest)
      else if isRepetition c then
        match classify word with
        | .label l => some (.repeated l, rest)
        | _ => none
      else none
    | _, [] => none

/-- Reads words and signs up to one of two closing characters, which stays in the rest. -/
def readLexemes? (close : Char → Bool) : Nat → List Char → Option (List Lexeme × List Char)
  | 0, _ => none
  | fuel + 1, cs =>
    match cs.dropWhile isSpace with
    | [] => none
    | c :: cs =>
      if close c then some ([], c :: cs)
      else do
        let (x, rest) ← readLexeme? (c :: cs)
        let (xs, rest) ← readLexemes? close fuel rest
        return (x :: xs, rest)

/-! ## Declarations -/

/-- Whether a character may stand in a public identifier. -/
def isPublicIdChar (c : Char) : Bool :=
  c.isAlphanum || c == ' ' || c == '\n' || c == '\r' || "-'()+,./:=?;!*#@$_%".toList.contains c

/-- Whether words name a place outside the document, perhaps with a public name. -/
def isExternalId : List Lexeme → Bool
  | [.label ⟨none, "SYSTEM"⟩, .literal _] => true
  | [.label ⟨none, "PUBLIC"⟩, .literal name, .literal _] => name.all isPublicIdChar
  | _ => false

/-- The replacement text of an entity: references to characters are replaced, references to
entities stay, and a percent sign is refused. -/
def entityText? : Nat → List Char → List Char → Option (List Char)
  | 0, _, _ => none
  | _ + 1, done, [] => some done.reverse
  | fuel + 1, done, c :: cs =>
    if c = '%' then none
    else if c = '&' then
      match readReference? cs with
      | none => none
      | some (.char c, rest) => entityText? fuel (c :: done) rest
      | some (.entity name, rest) =>
        entityText? fuel (';' :: name.toList.reverse ++ '&' :: done) rest
    else entityText? fuel (c :: done) cs

/-- The document type with one more entity. -/
def Doctype.declareEntity (d : Doctype) (name : String) (e : Definition) : Doctype :=
  if d.counting then { d with entities := d.entities ++ [(name, e)] } else d

def Doctype.entityDeclaration? (d : Doctype) : List Lexeme → Option Doctype
  | [.label ⟨none, name⟩, .literal text] =>
    if d.counting then
      (entityText? (text.length + 1) [] text).map fun text =>
        d.declareEntity name (.internal text)
    else some d
  | [.percent, .label ⟨none, _⟩, .literal text] =>
    if d.counting then (entityText? (text.length + 1) [] text).map fun _ => d else some d
  | .percent :: .label ⟨none, _⟩ :: place => if isExternalId place then some d else none
  | .label ⟨none, name⟩ :: place =>
    let place' := match place.reverse with
      | .label ⟨none, _⟩ :: .label ⟨none, "NDATA"⟩ :: before => before.reverse
      | _ => place
    if isExternalId place' then some (d.declareEntity name .external) else none
  | _ => none

/-- Applies a notation declaration, which says nothing about the tree. -/
def Doctype.notationDeclaration? (d : Doctype) : List Lexeme → Option Doctype
  | [.label ⟨none, _⟩, .label ⟨none, "PUBLIC"⟩, .literal name] =>
    if name.all isPublicIdChar then some d else none
  | .label ⟨none, _⟩ :: place => if isExternalId place then some d else none
  | _ => none

/-- The document type with one more attribute rule. A rule with a default counts only if no rule
of the attribute came before it. -/
def Doctype.declareAttribute (d : Doctype) (r : AttributeRule) (identity : Bool) : Doctype :=
  let declared := d.rules.any fun q => q.element == r.element && q.name == r.name
  if (r.value.isSome || identity) && declared then d else { d with rules := d.rules ++ [r] }

/-- What follows the alternatives between parentheses, the opening one of which has been read. -/
def afterAlternatives? (allowed : Lexeme → Bool) : List Lexeme → Option (List Lexeme)
  | x :: .closing none :: rest => if allowed x then some rest else none
  | x :: .bar :: rest => if allowed x then afterAlternatives? allowed rest else none
  | _ => none

/-- Whether a word may be a value of an enumerated attribute. -/
def Lexeme.isToken : Lexeme → Bool
  | .label _ => true
  | .token _ => true
  | _ => false

/-- Whether a word is a name without a colon. -/
def Lexeme.isName : Lexeme → Bool
  | .label ⟨none, _⟩ => true
  | _ => false

/-- The names of the types of attributes that list no values. -/
def attributeTypes : List String :=
  ["CDATA", "ID", "IDREF", "IDREFS", "ENTITY", "ENTITIES", "NMTOKEN", "NMTOKENS"]

/-- The type of an attribute, `CDATA` or `ID` or another, and the words behind it. -/
def attributeType? : List Lexeme → Option (String × List Lexeme)
  | .label ⟨none, "NOTATION"⟩ :: .opening :: rest =>
    (afterAlternatives? Lexeme.isName rest).map ("NOTATION", ·)
  | .label ⟨none, type⟩ :: rest => if type ∈ attributeTypes then some (type, rest) else none
  | .opening :: rest => (afterAlternatives? Lexeme.isToken rest).map ("", ·)
  | _ => none

/-- Applies the attribute definitions of one element. -/
def Doctype.attributeDeclarations? (element : Label) (budget : Nat) :
    Nat → Doctype → List Lexeme → Option Doctype
  | 0, _, _ => none
  | _ + 1, d, [] => some d
  | fuel + 1, d, .label name :: words => do
    let (type, words) ← attributeType? words
    let tokenized := type != "CDATA"
    let add (value : Option (List Char)) : Option Doctype :=
      if !d.counting then some d
      else match value with
        | none => some (d.declareAttribute ⟨element, name, tokenized, none⟩ (type == "ID"))
        | some cs => (d.expandValue tokenized budget cs).map fun (value, _) =>
          d.declareAttribute ⟨element, name, tokenized, some value⟩ (type == "ID")
    match words with
    | .hash "IMPLIED" :: words => attributeDeclarations? element budget fuel (← add none) words
    | .hash "REQUIRED" :: words => attributeDeclarations? element budget fuel (← add none) words
    | .hash "FIXED" :: .literal cs :: words =>
      attributeDeclarations? element budget fuel (← add (some cs)) words
    | .literal cs :: words => attributeDeclarations? element budget fuel (← add (some cs)) words
    | _ => none
  | _ + 1, _, _ => none

/-- Whether words form groups of names, each group joined by commas only or by bars only. The list
holds, for each open group, the sign that joins it so far; `item` says that a part is due. -/
def isContentModel : List (Option Lexeme) → Bool → List Lexeme → Bool
  | [], _, ws => ws.isEmpty
  | _, _, [] => false
  | joins, true, .opening :: ws => isContentModel (none :: joins) true ws
  | joins, true, .label _ :: ws => isContentModel joins false ws
  | joins, true, .repeated _ :: ws => isContentModel joins false ws
  | _ :: joins, false, .closing _ :: ws => isContentModel joins false ws
  | join :: joins, false, w :: ws =>
    (w == .comma || w == .bar) && (join.isNone || join == some w) &&
      isContentModel (some w :: joins) true ws
  | _, _, _ => false

/-- Whether words are alternatives to character data, the opening of which has been read. -/
def isMixedModel : List Lexeme → Bool
  | [.closing (some c)] => c == '*'
  | .bar :: .label _ :: ws => isMixedModel ws
  | _ => false

/-- Applies an element declaration, which says nothing about the tree. -/
def Doctype.elementDeclaration? (d : Doctype) : List Lexeme → Option Doctype
  | [.label _, .label ⟨none, "EMPTY"⟩] => some d
  | [.label _, .label ⟨none, "ANY"⟩] => some d
  | [.label _, .opening, .hash "PCDATA", .closing none] => some d
  | .label _ :: .opening :: .hash "PCDATA" :: ws => if isMixedModel ws then some d else none
  | .label _ :: .opening :: ws => if isContentModel [none] true ws then some d else none
  | _ => none

/-- Applies a declaration of a kind, given the words behind the kind. -/
def Doctype.declaration? (d : Doctype) (budget : Nat) (kind : String) (ws : List Lexeme) :
    Option Doctype :=
  if kind = "ENTITY" then d.entityDeclaration? ws
  else if kind = "NOTATION" then d.notationDeclaration? ws
  else if kind = "ELEMENT" then d.elementDeclaration? ws
  else if kind = "ATTLIST" then
    match ws with
    | .label element :: ws => Doctype.attributeDeclarations? element budget (ws.length + 1) d ws
    | _ => none
  else none

/-- Reads the internal part of a declaration up to its closing bracket. -/
def readSubset? (budget : Nat) : Nat → Doctype → List Char → Option (Doctype × List Char)
  | 0, _, _ => none
  | fuel + 1, d, cs =>
    match cs.dropWhile isSpace with
    | ']' :: rest => some (d, rest)
    | '%' :: rest =>
      match readName? rest with
      | some (_, ';' :: rest) =>
        readSubset? budget fuel { d with external := true, counting := d.standalone } rest
      | _ => none
    | '<' :: '!' :: '-' :: '-' :: rest => (skipComment? rest).bind (readSubset? budget fuel d)
    | '<' :: '?' :: rest => (skipInstruction? rest).bind (readSubset? budget fuel d)
    | '<' :: '!' :: rest => do
      let kind := rest.takeWhile Char.isAlpha
      let rest := rest.drop kind.length
      if !(rest.head?.any isSpace) then none
      let (ws, rest) ← readLexemes? (· == '>') rest.length rest
      let d ← d.declaration? budget (String.ofList kind) ws
      readSubset? budget fuel d (rest.drop 1)
    | _ => none

/-- Reads a document type declaration behind its keyword. -/
def readDoctype? (standalone : Bool) (budget : Nat) (cs : List Char) :
    Option (Doctype × List Char) := do
  if !(cs.head?.any isSpace) then none
  let (ws, rest) ← readLexemes? (fun c => c == '>' || c == '[') cs.length cs
  let d ← match ws with
    | [.label _] => some (Doctype.initial standalone)
    | .label _ :: place =>
      if isExternalId place then some { Doctype.initial standalone with external := true } else none
    | _ => none
  match rest with
  | '[' :: rest => do
    let (d, rest) ← readSubset? budget rest.length d rest
    match rest.dropWhile isSpace with
    | '>' :: rest => some (d, rest)
    | _ => none
  | '>' :: rest => some (d, rest)
  | _ => none

end Introspection.Xml
