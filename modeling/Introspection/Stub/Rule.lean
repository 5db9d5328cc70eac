import Introspection.Entity.Name
import Introspection.Stub.Signature
import Introspection.Text.Line
import Introspection.Text.Quoted

/-!
# Rules

A rule renders one node of a document as one line and may say by which rules the nodes below it are
rendered. A table gives the rules by tag.

* `Rule`, `Rule.line`: the rules and their lines;
* `Table`, `Rule.table?`: the tables and what they are for.
-/

namespace Introspection.Stub

open Xml

/-- The rules. -/
inductive Rule where
  | repository
  | space
  | typeAlias
  | aliasTarget
  | typeComment
  | constant
  | enumeration
  | member
  | record
  | field
  | callable
  | callback
  | parameters
  | parameter
  | returnValue
  | doc
deriving DecidableEq, Repr

abbrev Table : Type := List (String × Rule)

namespace Table

/-- The rules below `parameters`. -/
def parameters : Table := [("parameter", .parameter), ("instance-parameter", .parameter)]

/-- The rules below callables. -/
def callable : Table :=
  [("doc", .doc), ("parameters", .parameters), ("return-value", .returnValue)]

/-- The rules below records and classes. -/
def record : Table :=
  [("doc", .doc), ("field", .field), ("constructor", .callable), ("method", .callable),
    ("function", .callable)]

/-- The rules below enumerations and bit fields. -/
def enumeration : Table := [("doc", .doc), ("member", .member)]

/-- The rules below constants. -/
def constant : Table := [("type", .typeComment)]

/-- The rules below aliases. -/
def typeAlias : Table := [("type", .aliasTarget)]

/-- The rules for what a namespace declares. -/
def declarations : Table :=
  [("alias", .typeAlias), ("constant", .constant), ("enumeration", .enumeration),
    ("bitfield", .enumeration), ("record", .record), ("class", .record),
    ("function", .callable), ("callback", .callback)]

/-- The rules below the root element. -/
def spaces : Table := [("namespace", .space)]

/-- The rules for the root element. -/
def root : Table := [("repository", .repository)]

end Table

/-- The rules for the nodes below the one that a rule renders. -/
def Rule.table? : Rule → Option Table
  | .repository => some .spaces
  | .space => some .declarations
  | .typeAlias => some .typeAlias
  | .constant => some .constant
  | .enumeration => some .enumeration
  | .record => some .record
  | .callable => some .callable
  | .parameters => some .parameters
  | .aliasTarget | .typeComment | .member | .field | .callback | .parameter | .returnValue
  | .doc => none

/-! ## Lines -/

/-- The indentation of a level; there is none below zero. -/
def indentation (level : Int) : String := String.ofList (List.replicate (4 * level.toNat) ' ')

/-- A text with the indentation of a level. -/
def indented (level : Int) (text : String) : String := indentation level ++ text

/-- The levels of a node and of the rules that it meets. -/
def levels (level ruleLevel : Int) : String :=
  Text.decimal level ++ "+" ++ Text.decimal ruleLevel

/-- The name that an element gives itself, perhaps empty. -/
def nameOf (e : Element) : String := e.attributeD "name"

/-- A text between quotes, or the word for none. -/
def quotedOrNone : Option String → String
  | none => "None"
  | some s => Text.quoted s

def spaceLabel (e : Element) : String :=
  let version := e.attributeD "version"
  if version = "" then nameOf e else nameOf e ++ " " ++ version

/-- The target of an alias; a type or an alias without a name is an error. -/
def aliasText (target aliasName : Option String) : String :=
  if target.getD "" ≠ "" ∧ aliasName.getD "" ≠ "" then
    aliasName.getD "" ++ " = " ++ stubType target
  else "# error alias " ++ quotedOrNone aliasName ++ " = " ++ quotedOrNone target

/-- The type of a constant with its native type. -/
def typeText (e : Element) : String :=
  let ctype := e.attributeD "type"
  "# type " ++ (e.attribute? "name").getD "None" ++
    (if ctype = "" then "" else " (" ++ ctype ++ ")")

/-- The value of a constant: an integer in canonical form, or the text between quotes. -/
def constantValue : Option String → String
  | none => "..."
  | some raw =>
    match Text.readInteger? raw with
    | some n => Text.decimal n
    | none => Text.quoted raw

/-- The head of a record or class with its parent. -/
def recordText (e : Element) : String :=
  let parent := e.attributeD "parent"
  "class " ++ nameOf e ++
    (if parent = "" then "" else "(" ++ withoutNamespace parent ++ ")") ++ ":"

/-- What receives a callable. -/
def receiver? (tag : String) : Option String :=
  if tag = "method" then some "self" else if tag = "constructor" then some "cls" else none

/-- Whether an element says that it raises errors: by any text other than a zero. -/
def saysRaises (e : Element) : Bool :=
  match e.attribute? "throws" with
  | none => false
  | some s => s != "0"

def callableText (e : Element) : String :=
  if nameOf e = "" then "# empty " ++ e.tag
  else
    "def " ++ nameOf e ++ "(" ++ parameterList e (receiver? e.tag) ++ ") -> " ++
      returnHint e ++ ": ..." ++
      (if saysRaises e then "  # raises GLib.Error" else "")

/-- The first line of a documentation text. -/
def docText (e : Element) : String :=
  String.ofList (Text.trimRight ('#' :: ' ' :: Text.firstLine (Text.trim e.content.toList)))

/-- The text of a rule for an element on a level, below the element that brought the rule in. -/
def Rule.text (r : Rule) (e : Element) (level ruleLevel : Int) (opener : Option Element) : String :=
  match r with
  | .repository => "# " ++ e.tag ++ " @ " ++ levels level ruleLevel
  | .space => "# namespace " ++ spaceLabel e ++ " @ " ++ levels level ruleLevel
  | .typeAlias => "# alias " ++ nameOf e
  | .aliasTarget => aliasText (e.attribute? "name") (opener.bind (·.attribute? "name"))
  | .typeComment => typeText e
  | .constant => nameOf e ++ ": Final = " ++ constantValue (e.attribute? "value")
  | .enumeration =>
    "class " ++ nameOf e ++ "(" ++ (if e.tag = "bitfield" then "IntFlag" else "IntEnum") ++ "):"
  | .member => Text.upper (nameOf e) ++ " = " ++ (e.attribute? "value").getD "auto()"
  | .record => recordText e
  | .field => nameOf e ++ ": " ++ typeHint e
  | .callable => callableText e
  | .callback => nameOf e ++ " = Callable[..., " ++ returnHint e ++ "]"
  | .parameters => "# parameters"
  | .parameter =>
    "# " ++ (if e.tag = "instance-parameter" then "self" else "param") ++ " " ++ nameOf e ++ ": " ++
      typeHint e
  | .returnValue => "# returns " ++ typeHint e
  | .doc => docText e

def Rule.line (r : Rule) (e : Element) (level ruleLevel : Int) (opener : Option Element) : String :=
  indented level (r.text e level ruleLevel opener)

end Introspection.Stub
