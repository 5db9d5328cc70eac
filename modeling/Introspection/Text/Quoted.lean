import Introspection.Text.Hex
import Introspection.Text.Printable

/-!
# Quoted text

A text is written between quotes, single ones unless it holds single quotes and no double ones.
The quote in use and the backslash are preceded by a backslash, tab and line ends are written by
letter, and any other character that is not printable by its code in two, four or eight
hexadecimal digits.

* `quoted`: the written form.
-/

namespace Introspection.Text

/-- The written form of one character between the given quotes. -/
def quotedChar (quote c : Char) : List Char :=
  if c = quote ∨ c = '\\' then ['\\', c]
  else if c = '\t' then ['\\', 't']
  else if c = '\n' then ['\\', 'n']
  else if c = '\r' then ['\\', 'r']
  else if isPrintable c then [c]
  else if c.toNat < 0x100 then '\\' :: 'x' :: hexDigits 2 c.toNat
  else if c.toNat < 0x10000 then '\\' :: 'u' :: hexDigits 4 c.toNat
  else '\\' :: 'U' :: hexDigits 8 c.toNat

def quoteFor (cs : List Char) : Char :=
  if '\'' ∈ cs ∧ '"' ∉ cs then '"' else '\''

/-- The written form of a text between quotes. -/
def quotedChars (cs : List Char) : List Char :=
  quoteFor cs :: cs.flatMap (quotedChar (quoteFor cs)) ++ [quoteFor cs]

/-- The written form of a text between quotes. -/
def quoted (s : String) : String := String.ofList (quotedChars s.toList)

end Introspection.Text
