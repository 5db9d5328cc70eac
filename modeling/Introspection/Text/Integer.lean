import Introspection.Text.Blank
import Introspection.Text.Digit

/-!
# Integers in text

An integer is written with an optional sign and decimal digits of any script; single underscores
may stand between digits and blanks around the whole. More than `digitLimit` digits are no integer.

* `readInteger?`: the reader;
* `decimal`: the canonical text, in ASCII digits without leading zeros.
-/

namespace Introspection.Text

/-- The largest number of digits that is read as an integer. -/
def digitLimit : Nat := 4300

/-- The digits of a numeral whose digits may be grouped by single underscores. -/
def readDigits? : List Char → Option (List Nat)
  | [] => none
  | c :: rest =>
    match digitValue? c, rest with
    | none, _ => none
    | some d, [] => some [d]
    | some d, '_' :: rest' => (readDigits? rest').map (d :: ·)
    | some d, rest => (readDigits? rest).map (d :: ·)

/-- The number with the given digits, the most significant first. -/
def ofDigits (ds : List Nat) : Nat := ds.foldl (fun n d => 10 * n + d) 0

/-- The number that an unsigned numeral denotes, within the digit limit. -/
def readNatural? (cs : List Char) : Option Nat :=
  (readDigits? cs).bind fun ds => if ds.length ≤ digitLimit then some (ofDigits ds) else none

/-- The integer that a text without surrounding blanks denotes. -/
def readSigned? : List Char → Option Int
  | '-' :: cs => (readNatural? cs).map fun n => -(n : Int)
  | '+' :: cs => (readNatural? cs).map Int.ofNat
  | cs => (readNatural? cs).map Int.ofNat

/-- The integer that a text denotes, if it denotes one. -/
def readInteger? (s : String) : Option Int := readSigned? (trim s.toList)

/-- The canonical text of an integer. -/
def decimal : Int → String
  | .ofNat n => n.repr
  | .negSucc n => "-" ++ (n + 1).repr

end Introspection.Text
