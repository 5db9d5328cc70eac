import Introspection.Text.Range
import Introspection.Xml.NameTable

/-!
# Characters of markup

* `isAllowed`: the characters a document may hold;
* `isSpace`: the white space of markup;
* `isNameStart`, `isNameChar`: the characters of names without colons;
* `normalizeLineEnds`: every line end as a single line feed.
-/

namespace Introspection.Xml

open Introspection.Text

/-- Whether a document may hold a character. -/
def isAllowed (c : Char) : Bool :=
  if c.toNat < 0x20 then c == '\t' || c == '\n' || c == '\r'
  else c.toNat != 0xFFFE && c.toNat != 0xFFFF

/-- Whether a character is white space between the parts of markup. -/
def isSpace (c : Char) : Bool := c == ' ' || c == '\n' || c == '\t' || c == '\r'

/-- Whether a character may begin a name. -/
def isNameStart (c : Char) : Bool :=
  if c.toNat < 0x80 then c.isAlpha || c == '_' else inRanges letterRanges c.toNat

/-- Whether a character may continue a name. -/
def isNameChar (c : Char) : Bool :=
  isNameStart c ||
    if c.toNat < 0x80 then c.isDigit || c == '-' || c == '.'
    else inRanges continuationRanges c.toNat

/-- A text with every line end written as a single line feed. -/
def normalizeLineEnds (cs : List Char) : List Char := go [] cs
where
  /-- The normalized rest of a text behind `done`, which is reversed. -/
  go (done : List Char) : List Char → List Char
    | [] => done.reverse
    | '\r' :: '\n' :: cs => go ('\n' :: done) cs
    | '\r' :: cs => go ('\n' :: done) cs
    | c :: cs => go (c :: done) cs

end Introspection.Xml
