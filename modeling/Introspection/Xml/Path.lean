import Introspection.Text.Integer
import Introspection.Xml.Node
import Introspection.Xml.Path.Word

/-!
# Path queries

A path selects elements from an element downward, step by step: children or descendants with a name
or with any name, parents, and those of the selected elements that meet a condition in brackets.

* `Predicate`, `Predicate.read`, `Predicate.holds`: conditions in brackets;
* `Step`, `Step.select`: the steps of a path;
* `Path.read`: the steps of a path as written;
* `Path.select`: the selected nodes, in the order of selection.
-/

namespace Introspection.Xml

namespace Path

/-- A condition in brackets. Texts are asked to be equal to a value or to differ from it. -/
inductive Predicate where
  | attribute (key : String)
  | attributeValue (key : String) (equal : Bool) (value : String)
  | child (test : NameTest)
  | childText (test : NameTest) (equal : Bool) (value : String)
  | text (equal : Bool) (value : String)
  /-- The position among the children of the same name, from the end if it is negative. -/
  | position (i : Int)
deriving DecidableEq, Repr

namespace Predicate

/-- Whether a word is a position: decimal digits of any script, perhaps behind a minus sign. -/
def isPosition : Word → Bool
  | .plain word =>
    let digits := match word.toList with
      | '-' :: cs => cs
      | cs => cs
    !digits.isEmpty && digits.all fun c => (Text.digitValue? c).isSome
  | .qualified _ _ => false

/-- Reads a position, which counts from one. -/
def readPosition (word : String) : Except Failure Predicate :=
  match Text.readInteger? word with
  | some i => if i < 1 then .error .lowPosition else .ok (.position (i - 1))
  | none => .error (.longPosition (word.toList.countP fun c => (Text.digitValue? c).isSome))

/-- Reads a position from the end: a function, which is the one that gives the last position, and
perhaps what is added to it. -/
def readLast (function : String) (offset? : Option String) : Except Failure Predicate :=
  if function ≠ "last" then .error .unknownFunction
  else
    match offset? with
    | none => .ok (.position (-1))
    | some offset =>
      match Text.readInteger? offset with
      | some i => if -1 < i then .error .highOffset else .ok (.position (i - 1))
      | none => .error .unknownExpression

/-- Reads what stands in brackets, without its blanks. -/
def read : List (Token Word) → Except Failure Predicate
  | [.sign .atSign, .word key] => .ok (.attribute key.text)
  | [.sign .atSign, .word key, .sign .equals, .quoted _ value] =>
    .ok (.attributeValue key.text true value)
  | [.sign .atSign, .word key, .sign .unequal, .quoted _ value] =>
    .ok (.attributeValue key.text false value)
  | [.sign .dot, .sign .equals, .quoted _ value] => .ok (.text true value)
  | [.sign .dot, .sign .unequal, .quoted _ value] => .ok (.text false value)
  | [.word w] => if isPosition w then readPosition w.text else .ok (.child w.test)
  | [.word w, .sign .equals, .quoted _ value] =>
    if isPosition w then .error .unknownPredicate else .ok (.childText w.test true value)
  | [.word w, .sign .unequal, .quoted _ value] =>
    if isPosition w then .error .unknownPredicate else .ok (.childText w.test false value)
  | [.word w, .sign .parens] | [.word w, .sign .openParen, .sign .closeParen] =>
    readLast w.text none
  | [.word w, .sign .parens, .word offset] => readLast w.text (some offset.text)
  -- What is added is looked for behind the second sign, which is the closing one here.
  | [.word w, .sign .openParen, .sign .closeParen, .word _] => readLast w.text (some "")
  | _ => .error .unknownPredicate

/-- Whether a node at or below the root meets a condition. -/
def holds (root : Node) : Predicate → Node → Bool
  | .attribute key, n => n.element.attributes.any (·.name.raw == key)
  | .attributeValue key equal value, n =>
    (n.element.attributes.find? (·.name.raw == key)).any fun a => (a.value == value) == equal
  | .child test, n => n.element.children.any fun c => test.accepts c.name
  | .childText test equal value, n =>
    n.element.children.any fun c => test.accepts c.name && (c.content == value) == equal
  | .text equal value, n => (n.element.content == value) == equal
  | .position i, n =>
    match root.parent? n with
    | none => false
    | some p =>
      let test := NameTest.written n.element.name.raw
      let same := p.children.filter fun m => test.accepts m.element.name
      let i := if i < 0 then i + same.length else i
      0 ≤ i && (same[i.toNat]?).any (·.number == n.number)

end Predicate

/-- One step of a path. -/
inductive Step where
  | self
  | parent
  | children (test : NameTest)
  | descendants (test : NameTest)
  | filter (p : Predicate)
deriving DecidableEq, Repr

/-- The nodes that a step selects from nodes at or below the root. Each parent is selected once. -/
def Step.select (root : Node) : Step → List Node → List Node
  | .self, ns => ns
  | .parent, ns => Node.distinct (ns.filterMap root.parent?)
  | .children t, ns => ns.flatMap fun n => n.children.filter fun m => t.accepts m.element.name
  | .descendants t, ns =>
    ns.flatMap fun n => n.descendants.filter fun m => t.accepts m.element.name
  | .filter p, ns => ns.filter (p.holds root)

/-- The nodes that steps select from a node, in the order of selection. -/
def select (steps : List Step) (root : Node) : List Node :=
  steps.foldl (fun ns s => s.select root ns) [root]

/-! ## Reading -/

/-- Words and signs as they come, up to one that cannot be resolved. -/
abbrev Supply := List (Except Failure (Token Word))

/-- Reads up to a closing bracket, without the blanks. -/
def readBracketed : Supply → Except Failure (List (Token Word) × Supply)
  | [] => .error .missingStep
  | .error e :: _ => .error e
  | .ok (.sign .closeBracket) :: ts => .ok ([], ts)
  | .ok .blank :: ts => readBracketed ts
  | .ok t :: ts => (readBracketed ts).map fun (inside, rest) => (t :: inside, rest)

/-- The condition on names that a star or a word stands for. Blanks ask for an empty name. -/
def nameTest? : Token Word → Option NameTest
  | .sign .star => some .any
  | .word w => some w.test
  | .blank => some (.written "")
  | _ => none

/-- Reads the names of the descendants that a step selects. -/
def readDescendants : Supply → Except Failure (Step × Supply)
  | [] => .error .missingStep
  | .error e :: _ => .error e
  | .ok t :: ts =>
    match nameTest? t with
    | some test => .ok (.descendants test, ts)
    | none => .error .unnamedDescendants

/-- Reads the step that begins with a word or sign. -/
def readStep (t : Token Word) (ts : Supply) : Except Failure (Step × Supply) :=
  match t with
  | .sign .dot => .ok (.self, ts)
  | .sign .dots => .ok (.parent, ts)
  | .sign .slashes => readDescendants ts
  | .sign .openBracket => do
    let (inside, rest) ← readBracketed ts
    return (.filter (← Predicate.read inside), rest)
  | t =>
    match nameTest? t with
    | some test => .ok (.children test, ts)
    | none => .error (.unknownStep t.text)

/-- What follows a step, without the slash that may stand behind it. -/
def skipSlash : Supply → Supply
  | .ok (.sign .slash) :: ts => ts
  | ts => ts

/-- The steps that words and signs stand for. -/
def readSteps : Nat → Supply → Except Failure (List Step)
  | 0, _ => .ok []
  | _ + 1, [] => .ok []
  | _ + 1, .error e :: _ => .error e
  | fuel + 1, .ok t :: ts => do
    let (step, rest) ← readStep t ts
    return step :: (← readSteps fuel (skipSlash rest))

/-- The steps of a path. A path must not start with a slash, and one that ends with a slash selects
all children in its last step. -/
def read (prefixes : List (String × String)) (path : String) : Except Failure (List Step) :=
  let cs := path.toList
  let cs := if cs.getLast? = some '/' then cs ++ ['*'] else cs
  if cs.head? = some '/' then .error .absolutePath
  else
    let ts := resolve prefixes false (lex (cs.length + 1) cs)
    readSteps (ts.length + 1) ts

end Path

end Introspection.Xml
