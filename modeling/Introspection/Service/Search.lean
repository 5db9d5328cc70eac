import Introspection.Http.Message
import Introspection.Model.Basic
import Introspection.Service.Refusal
import Introspection.Text.Case

/-!
# Searches

A search asks for entities whose names hold a text, whatever the case of its letters.

* `readWhole`: whole numbers as clients write them;
* `Search`, `Search.read`: a search and its parameters;
* `Search.results`: what is found.
-/

namespace Introspection.Service

open Http Text

/-! ## Numbers in parameters -/

/-- Whether a character may stand around a number: blank, and no separator of information. -/
def isPadding (c : Char) : Bool := isBlank c && !(0x1C ≤ c.toNat && c.toNat ≤ 0x1F)

/-- A numeral without zeros in front, among which underscores may stand; a zero before the end or a
point stays. -/
def withoutZeros (cs : List Char) : List Char :=
  match cs with
  | '0' :: _ =>
    let (zeros, rest) := cs.span fun c => c == '0' || c == '_'
    match rest with
    | [] | '.' :: _ => zeros.drop (zeros.length - 1) ++ rest
    | _ => rest
  | _ => cs

/-- A numeral without a point and the zeros behind it. -/
def withoutPoint (cs : List Char) : List Char :=
  match splitAtFirst? '.' cs with
  | some (whole, zeros) => if zeros.all (· == '0') then whole else cs
  | none => cs

/-- The number of a numeral without a sign. Single underscores may stand between digits. -/
def readUnsigned (cs : List Char) : Except InputError Nat :=
  let cs := withoutPoint (withoutZeros cs)
  if cs.all fun c => c.isDigit || c == '_' then
    match readDigits? cs with
    | none => .error .notInteger
    | some ds => if digitLimit < ds.length then .error .longInteger else .ok (ofDigits ds)
  else .error .notInteger

def readWhole (s : String) : Except InputError Int :=
  let cs := ((s.toList.dropWhile isPadding).reverse.dropWhile isPadding).reverse
  match cs with
  | '-' :: cs => (readUnsigned cs).map fun n => -(n : Int)
  | '+' :: cs => (readUnsigned cs).map Int.ofNat
  | cs => (readUnsigned cs).map Int.ofNat

/-! ## Searches -/

/-- What is searched for. -/
structure Search where
  query : String
  /-- The name of the kind of the entities; an empty one stands for all kinds. -/
  kind : String := ""
  /-- How many entities are given at most. -/
  limit : Nat := 100
deriving DecidableEq, Repr

/-- The least number of characters to search for. -/
def leastQuery : Nat := 2

/-- The largest number of entities that may be asked for. -/
def mostResults : Nat := 500

def readQueryText : Option String → Except InputError String
  | none => .error .missing
  | some s => if s.length < leastQuery then .error (.shortText leastQuery) else .ok s

def readLimit : Option String → Except InputError Nat
  | none => .ok 100
  | some s => do
    let n ← readWhole s
    if n < 1 then .error (.below 1)
    else if mostResults < n then .error (.above mostResults)
    else return n.toNat

/-- The fault of a parameter, if it has one. -/
def faultOf {α : Type} (name : String) : Except InputError α → List InputFault
  | .error e => [⟨e, [.name "query", .name name]⟩]
  | .ok _ => []

/-- Reads a search; all faults of its parameters are told at once. -/
def Search.read (r : Request) : Except Refusal Search :=
  let query := readQueryText (r.parameter? "query")
  let limit := readLimit (r.parameter? "limit")
  match query, limit with
  | .ok query, .ok limit => .ok { query, kind := (r.parameter? "kind").getD "", limit }
  | query, limit => .error (.invalid (faultOf "query" query ++ faultOf "limit" limit))

/-- Whether an entity has a kind with the given name. -/
def hasKind (e : Entity) (name : String) : Bool := e.kind?.map Kind.name == some name

def Search.wants (s : Search) (e : Entity) : Bool :=
  (s.kind == "" || hasKind e s.kind) && occursIn (lower s.query).toList (lower e.name).toList

def Search.results (s : Search) (es : List Entity) : List Entity := (es.filter s.wants).take s.limit

end Introspection.Service
