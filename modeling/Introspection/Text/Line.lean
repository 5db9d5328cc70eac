/-!
# Lines

A line ends at a line feed, a vertical tab, a form feed, a carriage return, an information
separator, the next-line control, or the line and paragraph separators.

* `isLineEnd`, `firstLine`.
-/

namespace Introspection.Text

/-- Whether a character ends a line. -/
def isLineEnd (c : Char) : Bool :=
  (0x0A ≤ c.toNat && c.toNat ≤ 0x0D) || (0x1C ≤ c.toNat && c.toNat ≤ 0x1E) ||
    c.toNat == 0x85 || c.toNat == 0x2028 || c.toNat == 0x2029

/-- The first line of a text. -/
def firstLine (cs : List Char) : List Char := cs.takeWhile fun c => !isLineEnd c

end Introspection.Text
