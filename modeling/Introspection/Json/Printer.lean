import Introspection.Json.Basic
import Introspection.Text.Integer
import Introspection.Text.Quoted

/-!
# Printed JSON

A value is printed over several lines, one item or field on a line and two blanks of indentation
for every level; an empty list or object stays on its line. Only printable ASCII is written: other
characters are escaped by letter or by the code units of UTF-16.

* `Json.escaped`: a text between quotes;
* `Json.print`: the printed value.
-/

namespace Introspection.Json

/-- A code unit of UTF-16 as an escape. -/
def unitEscape (n : Nat) : List Char := '\\' :: 'u' :: Text.hexDigits 4 n

/-- The escaped form of a character. -/
def escapedChar (c : Char) : List Char :=
  if c = '"' ∨ c = '\\' then ['\\', c]
  else if c = '\n' then ['\\', 'n']
  else if c = '\r' then ['\\', 'r']
  else if c = '\t' then ['\\', 't']
  else if c = '\x08' then ['\\', 'b']
  else if c = '\x0c' then ['\\', 'f']
  else if 0x20 ≤ c.toNat ∧ c.toNat ≤ 0x7E then [c]
  else if c.toNat < 0x10000 then unitEscape c.toNat
  else
    unitEscape (0xD800 + (c.toNat - 0x10000) / 0x400) ++
      unitEscape (0xDC00 + (c.toNat - 0x10000) % 0x400)

/-- A text between quotes. -/
def escaped (s : String) : String := String.ofList ('"' :: s.toList.flatMap escapedChar ++ ['"'])

/-- A line end and the indentation of a level. -/
def lineBreak (level : Nat) : String := "\n" ++ String.ofList (List.replicate (2 * level) ' ')

/-- The printed form of a value that starts on a line of the given level. -/
def printAt (level : Nat) : Json → String
  | .null => "null"
  | .bool b => if b then "true" else "false"
  | .integer n => Text.decimal n
  | .decimal written => written
  | .text s => escaped s
  | .broken => escaped "\ufffd"
  | .list [] => "[]"
  | .list (j :: js) =>
    "[" ++ (lineBreak (level + 1) ++ printAt (level + 1) j ++ items (level + 1) js) ++
      (lineBreak level ++ "]")
  | .object [] => "\x7b\x7d"
  | .object ((k, j) :: fs) =>
    "\x7b" ++ (lineBreak (level + 1) ++ escaped k ++ ": " ++ printAt (level + 1) j ++
      fields (level + 1) fs) ++ (lineBreak level ++ "\x7d")
where
  /-- The items of a list behind its first one. -/
  items (level : Nat) : List Json → String
    | [] => ""
    | j :: js => "," ++ lineBreak level ++ printAt level j ++ items level js
  /-- The fields of an object behind its first one. -/
  fields (level : Nat) : List (String × Json) → String
    | [] => ""
    | (k, j) :: fs =>
      "," ++ lineBreak level ++ escaped k ++ ": " ++ printAt level j ++ fields level fs

/-- The printed form of a value. -/
def print (j : Json) : String := printAt 0 j

end Introspection.Json
