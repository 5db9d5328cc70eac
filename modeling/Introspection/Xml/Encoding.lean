import Introspection.Text.Codec
import Introspection.Xml.Fault
import Introspection.Xml.Lexeme

/-!
# From bytes to characters

A document begins in an encoding that its first bytes give away, and may declare another one of
the same unit size in an opening declaration of ASCII characters.

* `Encoding`, `Encoding.detect`, `Encoding.decode`;
* `Declaration`, `Declaration.read?`: the opening declaration;
* `Source`, `Source.ofBytes`: the characters behind the declaration, line ends normalized.
-/

namespace Introspection.Xml

open Introspection.Text

/-- How characters are written as bytes. -/
inductive Encoding where
  | utf8
  | utf16 (bigEndian : Bool)
  | latin1
  | ascii
  | charset (s : Charset)

/-- The encoding that the first bytes of a document give away, and the bytes behind a byte order
mark. -/
def Encoding.detect : List UInt8 → Encoding × List UInt8
  | 0xFE :: 0xFF :: bs => (.utf16 true, bs)
  | 0xFF :: 0xFE :: bs => (.utf16 false, bs)
  | 0xEF :: 0xBB :: 0xBF :: bs => (.utf8, bs)
  | 0 :: bs => (.utf16 true, 0 :: bs)
  | b :: 0 :: bs => (.utf16 false, b :: 0 :: bs)
  | bs => (.utf8, bs)

/-- The units of two bytes each; a byte too many is left out. -/
def units (bigEndian : Bool) : List UInt8 → List Nat
  | a :: b :: bs =>
    (if bigEndian then 256 * a.toNat + b.toNat else 256 * b.toNat + a.toNat) :: units bigEndian bs
  | _ => []

/-- The characters of units of two bytes. A leading surrogate takes the ten low bits of whatever
unit follows, and a trailing surrogate stands for nothing by itself. -/
def decodeUnits : List Nat → Option (List Char)
  | [] => some []
  | u :: us =>
    if 0xDC00 ≤ u ∧ u < 0xE000 then none
    else if 0xD800 ≤ u ∧ u < 0xDC00 then
      match us with
      | [] => none
      | v :: us =>
        (decodeUnits us).map (Char.ofNat (0x10000 + 0x400 * (u - 0xD800) + v % 0x400) :: ·)
    else (decodeUnits us).map (Char.ofNat u :: ·)

/-- The characters that bytes stand for. -/
def Encoding.decode : Encoding → List UInt8 → Option (List Char)
  | .utf8, bs => (String.fromUTF8? ⟨bs.toArray⟩).map String.toList
  | .utf16 bigEndian, bs =>
    if bs.length % 2 = 0 then decodeUnits (units bigEndian bs) else none
  | .latin1, bs => some (bs.map fun b => Char.ofNat b.toNat)
  | .ascii, bs => if bs.all (· < 128) then some (bs.map fun b => Char.ofNat b.toNat) else none
  | .charset s, bs => s.decode bs

/-- The number of bytes of an ASCII character. -/
def Encoding.unitSize : Encoding → Nat
  | .utf16 _ => 2
  | _ => 1

/-- The ASCII characters that bytes begin with. -/
def Encoding.asciiHead (e : Encoding) (bs : List UInt8) : List Char :=
  let us := match e with
    | .utf16 bigEndian => units bigEndian bs
    | _ => bs.map UInt8.toNat
  (us.takeWhile (· < 128)).map Char.ofNat

/-- Whether a character may stand in the value of a declaration. -/
def isDeclarationChar (c : Char) : Bool := c.isAlphanum || c == '.' || c == '-' || c == '_'

/-- Reads a blank, a name, an equals sign and a quoted value; no name if only blanks are left. -/
def readPseudoAttribute? (cs : List Char) : Option (Option (String × List Char) × List Char) :=
  match cs with
  | [] => some (none, [])
  | c :: _ =>
    if !isSpace c then none
    else
      let cs := cs.dropWhile isSpace
      let name := cs.takeWhile fun c => c != '=' && !isSpace c
      let rest := (cs.drop name.length).dropWhile isSpace
      match rest with
      | '=' :: rest =>
        if name.isEmpty then none
        else match rest.dropWhile isSpace with
          | quote :: rest =>
            let value := rest.takeWhile isDeclarationChar
            if quote != '"' && quote != '\'' then none
            else if rest[value.length]? = some quote then
              some (some (String.ofList name, value), rest.drop (value.length + 1))
            else none
          | [] => none
      | _ => if cs.isEmpty then some (none, []) else none

/-- The opening declaration of a document. -/
structure Declaration where
  encoding : Option String
  standalone : Bool
deriving DecidableEq, Repr

/-- Reads the last part of a declaration: whether the document stands alone. -/
def readStandalone? (name : String) (value rest : List Char) : Option Bool :=
  if name ≠ "standalone" ∨ !rest.all isSpace then none
  else if value = "yes".toList then some true
  else if value = "no".toList then some false
  else none

/-- Reads the text of a declaration: a version, then perhaps an encoding, then perhaps whether the
document stands alone. -/
def Declaration.read? (cs : List Char) : Option Declaration := do
  let (some (version, _), rest) ← readPseudoAttribute? cs | none
  if version ≠ "version" then none
  let (some (name, value), rest) ← readPseudoAttribute? rest | return ⟨none, false⟩
  if name = "encoding" then
    if !(value.head?.any Char.isAlpha) then none
    let encoding := some (String.ofList value)
    let (some (name, value), rest) ← readPseudoAttribute? rest | return ⟨encoding, false⟩
    return ⟨encoding, ← readStandalone? name value rest⟩
  else
    return ⟨none, ← readStandalone? name value rest⟩

/-- The text of the opening declaration, if a document has one, up to its closing. -/
def declarationText? (head : List Char) : Option (List Char) :=
  match after? "<?xml".toList head with
  | some (c :: rest) => if isSpace c || c == '?' then some (c :: rest) else none
  | _ => none

/-- The text before the closing of an instruction. -/
def beforeInstructionEnd? : List Char → Option (List Char)
  | [] => none
  | '?' :: '>' :: _ => some []
  | c :: cs => (beforeInstructionEnd? cs).map (c :: ·)

/-- The encoding that a declared name stands for in a document that begins in encoding `e`. -/
def Encoding.declared (e : Encoding) (name : String) : Except Fault Encoding :=
  let known := name.toLower
  match e with
  | .utf16 bigEndian =>
    if known = "utf-16" ∨ known = (if bigEndian then "utf-16be" else "utf-16le") then .ok e
    else if known ∈ ["utf-8", "iso-8859-1", "us-ascii", "utf-16be", "utf-16le"] then
      .error .malformed
    else named
  | _ =>
    if known = "utf-8" then .ok .utf8
    else if known = "iso-8859-1" then .ok .latin1
    else if known = "us-ascii" then .ok .ascii
    else if known ∈ ["utf-16", "utf-16be", "utf-16le"] then .error .malformed
    else named
where
  /-- The encoding that the codec of the name reads. -/
  named : Except Fault Encoding :=
    match reading? name with
    | some (.charset s) => .ok (.charset s)
    | some .foreign => .error .malformed
    | some .multiByte => .error .multiByteEncoding
    | some .notText => .error (.notTextEncoding name)
    | some (.strict reason) => .error (.strictEncoding name reason)
    | some .punycode => .error .punycodeEncoding
    | none => .error (.unknownEncoding name)

/-- The characters of a document behind its opening declaration. -/
structure Source where
  /-- Whether the document declares that it stands alone. -/
  standalone : Bool
  /-- The characters, all of them allowed, with every line end a single line feed. -/
  text : List Char
deriving DecidableEq, Repr

/-- The source with characters that bytes stand for, if they may all stand in a document. -/
def Source.decode (e : Encoding) (standalone : Bool) (bs : List UInt8) : Except Fault Source :=
  match e.decode bs with
  | some cs =>
    if cs.all isAllowed then .ok ⟨standalone, normalizeLineEnds cs⟩ else .error .malformed
  | none => .error .malformed

/-- The characters of a document that is given as bytes. -/
def Source.ofBytes (bytes : List UInt8) : Except Fault Source := do
  let (e, bs) := Encoding.detect bytes
  match declarationText? (e.asciiHead bs) with
  | none => Source.decode e false bs
  | some rest =>
    let text ← orMalformed (beforeInstructionEnd? rest)
    let declaration ← orMalformed (Declaration.read? text)
    let e' ← match declaration.encoding with
      | some name => e.declared name
      | none => .ok e
    Source.decode e' declaration.standalone (bs.drop (e.unitSize * (text.length + 7)))

end Introspection.Xml
