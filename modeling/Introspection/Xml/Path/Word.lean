import Introspection.Failure
import Introspection.Xml.Element
import Introspection.Xml.Path.Token

/-!
# Names in paths

A word of a path asks for names. A prefix is resolved to a namespace, and a namespace may also stand
in braces in front of a name. Stars stand for any namespace and for any local name.

* `matchesRaw`: whether a written name is what a text asks for;
* `NameTest`, `NameTest.accepts`: conditions on names;
* `Word`, `Word.read`, `Word.test`: resolved words;
* `resolve`: the words and signs of a path with their words resolved.
-/

namespace Introspection.Xml

/-- Whether a written name is what a text asks for: any one, one without a namespace, a local name
in any namespace or in none, any local name in a namespace, or just the name that it says. -/
def matchesRaw (asked raw : List Char) : Bool :=
  if asked = "\x7b*\x7d*".toList then true
  else if asked = "\x7b\x7d*".toList then raw.head? != some '\x7b'
  else if "\x7b*\x7d".toList.isPrefixOf asked then
    raw == asked.drop 3 || (asked.drop 2).isSuffixOf raw
  else if "\x7d*".toList.isSuffixOf asked then asked.dropLast.isPrefixOf raw
  else if "\x7b\x7d".toList.isPrefixOf asked then raw == asked.drop 2
  else raw == asked

/-- A condition on names. -/
inductive NameTest where
  | any
  /-- A local name in any namespace or in none. -/
  | anySpace (base : String)
  /-- Any local name in a namespace. -/
  | inSpace (space : String)
  | exactly (name : Name)
  /-- A written form that matches a text. -/
  | written (asked : String)
deriving DecidableEq, Repr

/-- Whether a name meets a condition. -/
def NameTest.accepts : NameTest → Name → Bool
  | .any, _ => true
  | .anySpace base, n => n.base == base
  | .inSpace space, n => n.space == space
  | .exactly name, n => n == name
  | .written asked, n => matchesRaw asked.toList n.raw.toList

/-- The condition that a qualified name stands for; a star stands for anything. -/
def NameTest.qualified (space base : String) : NameTest :=
  if space = "*" then if base = "*" then .any else .anySpace base
  else if base = "*" then .inSpace space
  else .exactly ⟨space, base⟩

namespace Path

/-- A word of a path. -/
inductive Word where
  | plain (text : String)
  /-- A name in a namespace that a prefix stands for. -/
  | qualified (space base : String)
deriving DecidableEq, Repr

namespace Word

def text : Word → String
  | plain text => text
  | qualified space base => "\x7b" ++ space ++ "\x7d" ++ base

/-- Resolves a word. A name without a prefix is in the default namespace, if there is one, but an
attribute is not. What begins with a brace stands for itself. -/
def read (prefixes : List (String × String)) (isAttribute : Bool) (word : String) :
    Except Failure Word :=
  if word.toList.head? = some '\x7b' then .ok (.plain word)
  else
    match Text.splitAtFirst? ':' word.toList with
    | some (p, base) =>
      match prefixes.lookup (String.ofList p) with
      | some space => .ok (.qualified space (String.ofList base))
      | none => .error (.unknownPrefix (String.ofList p))
    | none =>
      match prefixes.lookup "" with
      | some space =>
        if space = "" ∨ isAttribute then .ok (.plain word) else .ok (.qualified space word)
      | none => .ok (.plain word)

/-- The condition that a word stands for. Only the text tells what a local name with a closing brace
asks for. -/
def test : Word → NameTest
  | plain text => .written text
  | qualified space base =>
    if '\x7d' ∈ base.toList then .written (qualified space base).text else .qualified space base

end Word

/-- The text that a token stands for in a path. -/
def Token.text : Token Word → String
  | sign s => s.text
  | quoted quote text => String.singleton quote ++ text ++ String.singleton quote
  | blank => ""
  | word w => w.text

/-- The words and signs of a path with their words resolved, each by itself. The word right after an
at sign names an attribute. -/
def resolve (prefixes : List (String × String)) :
    Bool → List (Token String) → List (Except Failure (Token Word))
  | _, [] => []
  | isAttribute, .word w :: ts =>
    (Word.read prefixes isAttribute w).map .word :: resolve prefixes false ts
  | _, .sign s :: ts => .ok (.sign s) :: resolve prefixes (s = .atSign) ts
  | _, .quoted quote text :: ts => .ok (.quoted quote text) :: resolve prefixes false ts
  | _, .blank :: ts => .ok .blank :: resolve prefixes false ts

end Path

end Introspection.Xml
