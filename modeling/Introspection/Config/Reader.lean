import Introspection.Config.Basic
import Introspection.Outcome
import Introspection.Text.Alphanumeric
import Introspection.Text.Blank
import Introspection.Text.Piece

/-!
# Reading configurations

A configuration is written as pairs `key=value` with commas between them. A comma stands between
two pairs only if a key and an equals sign follow it, so that values may hold commas.

* `Config.fragments`: the text cut at the commas between pairs;
* `Config.pairs`: the pairs of key and value;
* `Config.Key`: what a key stands for;
* `Config.read`: the configuration that a text describes.
-/

namespace Introspection.Config

/-! ## Pairs -/

/-- Whether a character may stand in a key. -/
def isKeyChar (c : Char) : Bool := c == '_' || Text.isAlphanumeric c

/-- Whether a character may begin a key behind a comma. -/
def isKeyStart (c : Char) : Bool := c == '_' || c.isAlpha

/-- Whether a text begins with a key and an equals sign, perhaps behind blanks. -/
def startsPair (cs : List Char) : Bool :=
  match cs.dropWhile Text.isBlank with
  | [] => false
  | c :: rest => isKeyStart c && (rest.dropWhile isKeyChar).head? == some '='

/-- Cuts a text at the commas between pairs; the fragment begun so far is reversed. -/
def cut (fragment : List Char) : List Char → List (List Char)
  | [] => [fragment.reverse]
  | c :: cs =>
    if c = ',' ∧ startsPair cs then fragment.reverse :: cut [] cs else cut (c :: fragment) cs

/-- The fragments of a text between the commas that separate pairs. -/
def fragments (cs : List Char) : List (List Char) := cut [] cs

/-- The pair that a fragment stands for: what is before and behind its first equals sign, without
surrounding blanks. A fragment without an equals sign is no pair. -/
def pair? (fragment : List Char) : Option (String × String) :=
  (Text.splitAtFirst? '=' fragment).map fun (key, value) =>
    (String.ofList (Text.trim key), String.ofList (Text.trim value))

def pairs (text : String) : List (String × String) := (fragments text.toList).filterMap pair?

/-! ## Keys -/

/-- The options of a configuration. -/
inductive Setting where
  | rootPrefix
  | delimiter
  | blacklist
  | errorTypeName
  | defaultErrorType
deriving DecidableEq, Repr

def settings : List (String × Setting) :=
  [("default_prefix", .rootPrefix), ("prefix_delimiter", .delimiter), ("blacklist", .blacklist),
    ("error_type_name", .errorTypeName), ("default_error_type", .defaultErrorType)]

/-- Reserved keys: a value for one of them is taken without a word and changes nothing. -/
def reserved : List String :=
  ["__annotations__", "__dataclass_fields__", "__dataclass_params__", "__delattr__", "__dir__",
    "__doc__", "__eq__", "__format__", "__ge__", "__getattribute__", "__getstate__", "__gt__",
    "__hash__", "__init__", "__init_subclass__", "__le__", "__lt__", "__match_args__",
    "__module__", "__ne__", "__new__", "__reduce__", "__reduce_ex__", "__repr__", "__setattr__",
    "__sizeof__", "__str__", "__subclasshook__"]

/-- Reserved keys that take no value. -/
def fixed : List String := ["__class__", "__dict__", "__weakref__"]

/-- What a key stands for. -/
inductive Key where
  | setting (s : Setting)
  | reserved
  | fixed
  | unknown
deriving DecidableEq, Repr

def Key.ofText (key : String) : Key :=
  match settings.lookup key with
  | some s => .setting s
  | none =>
    if key ∈ Config.reserved then .reserved
    else if key ∈ Config.fixed then .fixed
    else .unknown

/-! ## Configurations -/

/-- The names of a blacklist, separated by bars. -/
def blacklistNames (value : String) : NameSet :=
  NameSet.ofList
    (((Text.splitOn ['|'] value.toList).filter fun n => !n.isEmpty).map String.ofList)

def set (c : Config) (s : Setting) (value : String) : Config :=
  match s with
  | .rootPrefix => { c with rootPrefix := value }
  | .delimiter => { c with delimiter := value }
  | .blacklist => { c with blacklist := blacklistNames value }
  | .errorTypeName => { c with errorTypeName := value }
  | .defaultErrorType => { c with defaultErrorType := value }

/-- Applies pairs to a configuration, one after the other. -/
def apply (c : Config) : List (String × String) → Outcome Config
  | [] => .ok c
  | (key, value) :: rest =>
    match Key.ofText key with
    | .setting s => apply (c.set s value) rest
    | .reserved => apply c rest
    | .fixed => .fail (.fixedOption key)
    | .unknown => do
      Outcome.warn (.unknownOption key)
      apply c rest

def read (text : String) : Outcome Config := apply {} (pairs text)

/-- The configuration that a text describes, the default one without a text. -/
def readOptional : Option String → Outcome Config
  | none => .ok {}
  | some text => read text

end Introspection.Config
