import Introspection.Text.Range

/-!
# Blank characters

The characters that separate words: the white space of Unicode 14 together with the four
information separators.

* `isBlank`: the class;
* `trimLeft`, `trimRight`, `trim`: a text without the blanks at its ends.
-/

namespace Introspection.Text

/-- The blank characters as closed ranges, ascending and apart. -/
def blankRanges : List (Nat × Nat) :=
  [(0x09, 0x0D), (0x1C, 0x20), (0x85, 0x85), (0xA0, 0xA0), (0x1680, 0x1680), (0x2000, 0x200A),
   (0x2028, 0x2029), (0x202F, 0x202F), (0x205F, 0x205F), (0x3000, 0x3000)]

/-- Whether a character is blank. -/
def isBlank (c : Char) : Bool := inRanges blankRanges c.toNat

/-- The text from its first character that is not blank. -/
def trimLeft (cs : List Char) : List Char := cs.dropWhile isBlank

/-- The text up to its last character that is not blank. -/
def trimRight (cs : List Char) : List Char := (trimLeft cs.reverse).reverse

/-- The text without the blanks at its ends. -/
def trim (cs : List Char) : List Char := trimRight (trimLeft cs)

end Introspection.Text
