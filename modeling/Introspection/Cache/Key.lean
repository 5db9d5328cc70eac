import Introspection.Config.Basic
import Introspection.Digest.Md5
import Introspection.Text.Integer

/-!
# Keys of cached values

A key is the digest of a written list of arguments, so that different arguments have different
keys as far as the digest tells them apart.

* `KeyPart`, `KeyPart.text`: an argument and its written form;
* `keyText`, `makeKey`: a list of arguments as a text and as a key;
* `modelKey`: the key of the model of a document under a configuration.
-/

namespace Introspection

/-- An argument that a key is made of. -/
inductive KeyPart where
  | none
  | bool (b : Bool)
  | integer (n : Int)
  | text (s : String)
  | list (parts : List KeyPart)
deriving Repr, Inhabited

def KeyPart.written : KeyPart → String
  | .none => "None"
  | .bool b => if b then "True" else "False"
  | .integer n => Text.decimal n
  | .text s => Text.quoted s
  | .list [] => "[]"
  | .list (p :: ps) => "[" ++ p.written ++ texts ps ++ "]"
where
  /-- The written forms of the arguments behind the first one. -/
  texts : List KeyPart → String
    | [] => ""
    | p :: ps => ", " ++ p.written ++ texts ps

/-- The written form of a list of arguments; a single one is followed by a comma. -/
def keyText : List KeyPart → String
  | [] => "()"
  | [p] => "(" ++ p.written ++ ",)"
  | p :: ps => "(" ++ p.written ++ KeyPart.written.texts ps ++ ")"

def makeKey (parts : List KeyPart) : String := Md5.ofText (keyText parts)

/-- What the key of a model is made of: a mark, the path and the configuration. -/
def modelKeyParts (path : String) (config : Config) : List KeyPart :=
  [.text "gir", .text path, .text config.text]

/-- The key of the model of the document at a path under a configuration. -/
def modelKey (path : String) (config : Config) : String := makeKey (modelKeyParts path config)

end Introspection
