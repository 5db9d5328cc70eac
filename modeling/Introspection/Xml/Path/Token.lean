import Introspection.Text.Blank
import Introspection.Text.Piece

/-!
# Words and signs of paths

A path is cut into signs, quoted texts, blanks and words. What is none of these is passed over.

* `Sign`, `Token`: what a path is made of;
* `sign?`, `quoted?`, `takeWord`: what a text begins with;
* `lex`: the words and signs of a path.
-/

namespace Introspection.Xml.Path

open Introspection.Text

/-- A sign of a path. -/
inductive Sign where
  | slash
  | slashes
  | dot
  | dots
  | star
  | colon
  | colons
  | atSign
  | equals
  | unequal
  | openBracket
  | closeBracket
  | openParen
  | closeParen
  | parens
deriving DecidableEq, Repr

namespace Sign

def text : Sign → String
  | slash => "/"
  | slashes => "//"
  | dot => "."
  | dots => ".."
  | star => "*"
  | colon => ":"
  | colons => "::"
  | atSign => "@"
  | equals => "="
  | unequal => "!="
  | openBracket => "["
  | closeBracket => "]"
  | openParen => "("
  | closeParen => ")"
  | parens => "()"

/-- The sign of one character. -/
def single? : Char → Option Sign
  | '/' => some slash
  | '.' => some dot
  | '*' => some star
  | ':' => some colon
  | '@' => some atSign
  | '=' => some equals
  | '[' => some openBracket
  | ']' => some closeBracket
  | '(' => some openParen
  | ')' => some closeParen
  | _ => none

/-- The sign of two characters. -/
def double? : Char → Char → Option Sign
  | '/', '/' => some slashes
  | '.', '.' => some dots
  | ':', ':' => some colons
  | '!', '=' => some unequal
  | '(', ')' => some parens
  | _, _ => none

end Sign

/-- A part of a path, with words of a kind. -/
inductive Token (ω : Type) where
  | sign (s : Sign)
  | quoted (quote : Char) (text : String)
  | blank
  | word (w : ω)
deriving DecidableEq, Repr

/-- The longest sign that a text begins with, and what follows it. -/
def sign? : List Char → Option (Sign × List Char)
  | [] => none
  | [c] => (Sign.single? c).map (·, [])
  | c :: d :: cs =>
    match Sign.double? c d with
    | some s => some (s, cs)
    | none => (Sign.single? c).map (·, d :: cs)

/-- The text in quotes that follows a quote, and what follows the closing quote. -/
def quoted? (quote : Char) (cs : List Char) : Option (List Char × List Char) :=
  if quote = '\'' ∨ quote = '"' then splitAtFirst? quote cs else none

/-- Whether a character may continue a word of a path. -/
def isWordChar (c : Char) : Bool := !isBlank c && !"/[]()@!=".toList.contains c

/-- The part in braces that a word begins with, whatever it holds, and what follows it. -/
def braced? : List Char → Option (List Char × List Char)
  | '\x7b' :: cs =>
    match splitAtFirst? '\x7d' cs with
    | some (c :: inner, d :: rest) =>
      if isWordChar d then some ('\x7b' :: c :: inner ++ ['\x7d'], d :: rest) else none
    | _ => none
  | _ => none

/-- The word that a text begins with, and what follows it. -/
def takeWord (cs : List Char) : List Char × List Char :=
  let (lead, rest) := (braced? cs).getD ([], cs)
  (lead ++ rest.takeWhile isWordChar, rest.dropWhile isWordChar)

/-- The words and signs of a path. Blanks are one token, and an exclamation mark that begins no sign
is passed over. -/
def lex : Nat → List Char → List (Token String)
  | 0, _ => []
  | _ + 1, [] => []
  | fuel + 1, c :: cs =>
    match quoted? c cs with
    | some (text, rest) => .quoted c (String.ofList text) :: lex fuel rest
    | none =>
      match sign? (c :: cs) with
      | some (s, rest) => .sign s :: lex fuel rest
      | none =>
        if isBlank c then .blank :: lex fuel (cs.dropWhile isBlank)
        else if c = '!' then lex fuel cs
        else
          let (word, rest) := takeWord (c :: cs)
          .word (String.ofList word) :: lex fuel rest

end Introspection.Xml.Path
