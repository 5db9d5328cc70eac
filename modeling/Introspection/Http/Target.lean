import Introspection.Text.Hex
import Introspection.Text.Piece
import Introspection.Text.Utf8

/-!
# Targets of requests

A reference names a path on a server and a query behind a question mark. Characters may be written
as `%` and the hexadecimal digits of their bytes.

* `percentDecode`: a text without such escapes;
* `readQuery`: the parameters of a query;
* `removeDots`: a path without detours;
* `Target`, `Target.ofReference`: the path and the query of a reference.
-/

namespace Introspection.Http

open Text

/-! ## Escapes -/

/-- The byte that two hexadecimal digits denote. -/
def hexByte? (a b : UInt8) : Option UInt8 := do
  let high ← hexValue? (Char.ofNat a.toNat)
  let low ← hexValue? (Char.ofNat b.toNat)
  return UInt8.ofNat (16 * high + low)

/-- Replaces escapes by their bytes. A percent sign without two digits stands for itself. -/
def unescape : List UInt8 → List UInt8
  | 0x25 :: a :: b :: bs =>
    match hexByte? a b with
    | some byte => byte :: unescape bs
    | none => 0x25 :: unescape (a :: b :: bs)
  | b :: bs => b :: unescape bs
  | [] => []

/-- A text without escapes. -/
def percentDecode (s : String) : String :=
  String.ofList (Utf8.decode (unescape s.toUTF8.toList))

/-! ## Queries -/

/-- A name or a value in a query, in which a plus sign stands for a blank. -/
def queryText (cs : List Char) : String :=
  percentDecode (String.ofList (cs.map fun c => if c = '+' then ' ' else c))

/-- A parameter; one without an equals sign has an empty value. -/
def queryPair (cs : List Char) : String × String :=
  match splitAtFirst? '=' cs with
  | some (name, value) => (queryText name, queryText value)
  | none => (queryText cs, "")

def readQuery (s : String) : List (String × String) :=
  ((splitOn ['&'] s.toList).filter (!·.isEmpty)).map queryPair

/-! ## Paths -/

/-- Drops single dots from the parts of a path, and two dots with the part in front of them; nothing
is in front of the server itself. `done` holds the parts so far, the last one first. -/
def removeDotsFrom (done : List (List Char)) : List (List Char) → List (List Char)
  | [] => done.reverse
  | ['.'] :: ps => removeDotsFrom done ps
  | ['.', '.'] :: ps => removeDotsFrom (if done = [[]] then done else done.tail) ps
  | p :: ps => removeDotsFrom (p :: done) ps

/-- A path without detours. -/
def removeDots (cs : List Char) : List Char :=
  ['/'].intercalate (removeDotsFrom [] (splitOn ['/'] cs))

/-- A path on a server, still with its escapes, and the parameters of a query. -/
structure Target where
  path : String
  query : List (String × String)
deriving DecidableEq, Repr

/-- What follows the name of a host, which two slashes announce. -/
def withoutHost : List Char → List Char
  | '/' :: '/' :: cs => cs.dropWhile (· != '/')
  | cs => cs

/-- The target that a reference leads to on a server. What follows a hash sign stays with the one
who asks. -/
def Target.ofReference (s : String) : Target :=
  let cs := s.toList.takeWhile (· != '#')
  let path := (withoutHost (cs.takeWhile (· != '?'))).dropWhile (· == '/')
  { path := String.ofList ('/' :: (removeDots ('/' :: path)).drop 1)
    query := readQuery (String.ofList ((cs.dropWhile (· != '?')).drop 1)) }

end Introspection.Http
