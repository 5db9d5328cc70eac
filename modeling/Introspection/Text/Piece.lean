/-!
# Pieces of a text

* `splitOn`: the pieces between the occurrences of a delimiter, taken from the left;
* `splitAtFirst?`: a text cut at the first occurrence of a character;
* `afterLast`: what follows the last occurrence of a character;
* `withoutSuffix?`: a text without a given ending;
* `occursIn`: whether a text holds another one.
-/

namespace Introspection.Text

/-- The pieces of a text between delimiters. `skip` characters of a delimiter are still to be
passed over, and `piece` holds the piece begun so far, reversed. -/
def splitFrom (delimiter : List Char) : Nat → List Char → List Char → List (List Char)
  | _, piece, [] => [piece.reverse]
  | skip + 1, piece, _ :: cs => splitFrom delimiter skip piece cs
  | 0, piece, c :: cs =>
    if delimiter.isPrefixOf (c :: cs) then
      piece.reverse :: splitFrom delimiter (delimiter.length - 1) [] cs
    else splitFrom delimiter 0 (c :: piece) cs

/-- The pieces of a text between the occurrences of a non-empty delimiter, taken from the left
without overlap. -/
def splitOn (delimiter cs : List Char) : List (List Char) := splitFrom delimiter 0 [] cs

/-- The text before and after the first occurrence of a character. -/
def splitAtFirst? (c : Char) : List Char → Option (List Char × List Char)
  | [] => none
  | d :: cs =>
    if d = c then some ([], cs) else (splitAtFirst? c cs).map fun (a, b) => (d :: a, b)

/-- The text after the last occurrence of a character, the whole text if there is none. -/
def afterLast (c : Char) (cs : List Char) : List Char :=
  (cs.reverse.takeWhile (· != c)).reverse

/-- A text without the given ending, if it has that ending and is longer. -/
def withoutSuffix? (ending cs : List Char) : Option (List Char) :=
  if ending.isSuffixOf cs ∧ ending.length < cs.length then
    some (cs.take (cs.length - ending.length))
  else none

/-- Whether a text occurs in another one. -/
def occursIn (piece : List Char) : List Char → Bool
  | [] => piece.isEmpty
  | c :: cs => piece.isPrefixOf (c :: cs) || occursIn piece cs

end Introspection.Text
