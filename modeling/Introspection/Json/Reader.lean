import Introspection.Json.Basic
import Introspection.Text.Hex
import Introspection.Text.Integer

/-!
# Reading JSON

A text is read from the left, and the first place where nothing fits is where it fails. Besides
JSON proper, the names of the numbers that are not finite are read.

* `Json.ReadFault`: why a text is no JSON, with the place;
* `Json.scanText`, `Json.scanNumber`: texts and numbers;
* `Json.scan`: a value, with what follows it;
* `Json.read`: the value of a text.
-/

namespace Introspection.Json

open Text

/-- Why a text is not read. -/
inductive ReadFault where
  /-- Nothing fits in front of the last `rest` characters. -/
  | misfit (rest : Nat)
  /-- An integer has more than `digitLimit` digits. -/
  | longInteger
deriving DecidableEq, Repr

abbrev Reading := Except ReadFault

/-- Nothing fits in front of the given characters. -/
def misfit {α : Type} (cs : List Char) : Reading α := .error (.misfit cs.length)

/-- Whether a character may stand between the parts of a value. -/
def isSpace (c : Char) : Bool := c == ' ' || c == '\t' || c == '\n' || c == '\r'

/-- Leaves out the space in front of a part. -/
def skip (cs : List Char) : List Char := cs.dropWhile isSpace

/-! ## Texts -/

/-- What a letter behind a backslash stands for. -/
def escapes : List (Char × Char) :=
  [('"', '"'), ('\\', '\\'), ('/', '/'), ('b', '\x08'), ('f', '\x0c'), ('n', '\n'), ('r', '\r'),
    ('t', '\t')]

/-- The number that hexadecimal digits denote. -/
def readHex? (cs : List Char) : Option Nat :=
  cs.foldl (fun n? c => do return 16 * (← n?) + (← hexValue? c)) (some 0)

/-- Reads a text behind its opening quote, as code points in which a character may still be two
surrogates. `opening` is the number of characters from the quote on. -/
def scanPoints (opening : Nat) : List Char → Reading (List Nat × List Char)
  | [] => .error (.misfit opening)
  | ['\\'] => .error (.misfit opening)
  | '"' :: cs => .ok ([], cs)
  | '\\' :: 'u' :: c₁ :: c₂ :: c₃ :: c₄ :: c :: cs =>
    match readHex? [c₁, c₂, c₃, c₄] with
    | none => misfit ('u' :: c₁ :: c₂ :: c₃ :: c₄ :: c :: cs)
    | some n => do
      let (points, rest) ← scanPoints opening (c :: cs)
      return (n :: points, rest)
  | '\\' :: e :: cs =>
    match escapes.lookup e with
    | none => misfit (if e = 'u' then e :: cs else '\\' :: e :: cs)
    | some c => do
      let (points, rest) ← scanPoints opening cs
      return (c.toNat :: points, rest)
  | c :: cs =>
    if c.toNat < 0x20 then misfit (c :: cs)
    else do
      let (points, rest) ← scanPoints opening cs
      return (c.toNat :: points, rest)

/-- Joins two surrogates that make up a character. -/
def joinSurrogates : List Nat → List Nat
  | u :: v :: ps =>
    if 0xD800 ≤ u ∧ u < 0xDC00 ∧ 0xDC00 ≤ v ∧ v < 0xE000 then
      (0x10000 + 0x400 * (u - 0xD800) + (v - 0xDC00)) :: joinSurrogates ps
    else u :: joinSurrogates (v :: ps)
  | ps => ps

/-- The text of code points, with the replacement character for half a character, and whether it
holds none of these. -/
def textOfPoints (points : List Nat) : String × Bool :=
  let ps := joinSurrogates points
  (String.ofList (ps.map fun n => if n.isValidChar then Char.ofNat n else '\ufffd'),
    ps.all fun n => decide n.isValidChar)

/-- Reads a text behind its opening quote. -/
def scanText (cs : List Char) : Reading ((String × Bool) × List Char) := do
  let (points, rest) ← scanPoints (cs.length + 1) cs
  return (textOfPoints points, rest)

/-! ## Numbers -/

/-- The digits at the head of a text, and what follows them. -/
def spanDigits (cs : List Char) : List Char × List Char := cs.span Char.isDigit

/-- The number of decimal digits without leading zeros. -/
def naturalOf (ds : List Char) : Nat := ofDigits (ds.map fun c => c.toNat - 48)

/-- The digits of a whole number, which start with a zero only if there is no other digit. -/
def spanWhole (cs : List Char) : List Char × List Char :=
  match cs with
  | '0' :: cs => (['0'], cs)
  | cs => spanDigits cs

/-- A point with the digits behind it, if there are any. -/
def spanFraction (cs : List Char) : List Char × List Char :=
  match cs with
  | '.' :: rest =>
    match spanDigits rest with
    | ([], _) => ([], cs)
    | (ds, rest) => ('.' :: ds, rest)
  | cs => ([], cs)

/-- An exponent with its letter and sign, if it has digits. -/
def spanExponent (cs : List Char) : List Char × List Char :=
  match cs with
  | e :: rest =>
    if e = 'e' ∨ e = 'E' then
      let (sign, rest) := match rest with
        | '-' :: r => (['-'], r)
        | '+' :: r => (['+'], r)
        | r => ([], r)
      match spanDigits rest with
      | ([], _) => ([], cs)
      | (ds, rest) => (e :: sign ++ ds, rest)
    else ([], cs)
  | [] => ([], [])

/-- The least number that is too large for a number of double precision. -/
def overflow : Nat := Nat.pow 2 1024 - Nat.pow 2 970

/-- Whether `m * 10 ^ e` is too large for a number of double precision. The number of digits settles
all but a few cases, so that no large power is taken. -/
def overflows (m : Nat) (e : Int) : Bool :=
  let size := (Nat.repr m).length + e
  if m = 0 ∨ size < 300 then false
  else if 320 < size then true
  else decide (overflow * Nat.pow 10 (-e).toNat ≤ m * Nat.pow 10 e.toNat)

/-- The exponent that is written behind a number. -/
def exponentOf : List Char → Int
  | _ :: '-' :: ds => -(naturalOf ds : Int)
  | _ :: '+' :: ds => naturalOf ds
  | _ :: ds => naturalOf ds
  | [] => 0

/-- A number with a fraction or an exponent. One that is too large counts as infinite. -/
def decimalOf (sign whole fraction exponent : List Char) : Json :=
  let e := exponentOf exponent - (fraction.length - 1 : Nat)
  if overflows (naturalOf (whole ++ fraction.drop 1)) e then
    .decimal (String.ofList sign ++ "Infinity")
  else .decimal (String.ofList (sign ++ whole ++ fraction ++ exponent))

def scanNumber (cs : List Char) : Reading (Json × List Char) :=
  let (sign, rest) := match cs with
    | '-' :: rest => (['-'], rest)
    | _ => ([], cs)
  match spanWhole rest with
  | ([], _) => misfit cs
  | (whole, rest) =>
    let (fraction, rest) := spanFraction rest
    let (exponent, rest) := spanExponent rest
    if fraction.isEmpty ∧ exponent.isEmpty then
      if digitLimit < whole.length then .error .longInteger
      else .ok (.integer (if sign.isEmpty then naturalOf whole else -naturalOf whole), rest)
    else .ok (decimalOf sign whole fraction exponent, rest)

/-! ## Values -/

def words : List (String × Json) :=
  [("null", .null), ("true", .bool true), ("false", .bool false), ("NaN", .decimal "NaN"),
    ("Infinity", .decimal "Infinity"), ("-Infinity", .decimal "-Infinity")]

/-- The value of the word at the head of a text, and what follows it. -/
def scanWord? (cs : List Char) : Option (Json × List Char) :=
  (words.find? fun (w, _) => w.toList.isPrefixOf cs).map fun (w, j) => (j, cs.drop w.length)

mutual

/-- Reads a value that starts at the head of a text. The first number bounds the steps, of which
no character takes more than two. -/
def scan : Nat → List Char → Reading (Json × List Char)
  | 0, cs => misfit cs
  | _ + 1, '"' :: cs => do
    let ((s, whole), rest) ← scanText cs
    return (if whole then .text s else .broken, rest)
  | fuel + 1, '[' :: cs =>
    match skip cs with
    | ']' :: rest => .ok (.list [], rest)
    | rest => do
      let (items, rest) ← scanItems fuel rest
      return (.list items, rest)
  | fuel + 1, '\x7b' :: cs =>
    match skip cs with
    | '\x7d' :: rest => .ok (.object [], rest)
    | rest => scanFields fuel [] rest
  | _ + 1, cs =>
    match scanWord? cs with
    | some found => .ok found
    | none => scanNumber cs

/-- Reads the items of a list up to its closing bracket. -/
def scanItems : Nat → List Char → Reading (List Json × List Char)
  | 0, cs => misfit cs
  | fuel + 1, cs => do
    let (j, rest) ← scan fuel cs
    match skip rest with
    | ']' :: rest => return ([j], rest)
    | ',' :: rest => do
      let (js, rest) ← scanItems fuel (skip rest)
      return (j :: js, rest)
    | rest => misfit rest

/-- Reads the fields of an object up to its closing brace, behind those that are known. A field
whose key is no text of characters has no value that could be exchanged either. -/
def scanFields : Nat → List (String × Json) → List Char → Reading (Json × List Char)
  | 0, _, cs => misfit cs
  | fuel + 1, known, '"' :: cs => do
    let ((key, whole), rest) ← scanText cs
    match skip rest with
    | ':' :: rest => do
      let (j, rest) ← scan fuel (skip rest)
      let known := setField key (if whole then j else .broken) known
      match skip rest with
      | '\x7d' :: rest => return (.object known, rest)
      | ',' :: rest => scanFields fuel known (skip rest)
      | rest => misfit rest
    | rest => misfit rest
  | _ + 1, _, cs => misfit cs

end

/-- The value of a text; space may stand around it. -/
def read (cs : List Char) : Reading Json := do
  let (j, rest) ← scan (2 * cs.length + 2) (skip cs)
  match skip rest with
  | [] => return j
  | rest => misfit rest

end Introspection.Json
