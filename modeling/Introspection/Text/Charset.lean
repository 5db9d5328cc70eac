/-!
# Charsets

Encodings of one byte a character whose lower half is ASCII, perhaps without some characters. The
replacement character marks a byte of the upper half that stands for nothing.

* `Charset`, `Charset.extending`;
* `Charset.char?`, `Charset.decode`: what bytes stand for.
-/

namespace Introspection.Text

/-- An encoding of one byte a character that extends ASCII. -/
structure Charset where
  /-- The characters of the bytes from 128 on. -/
  high : List Char
  /-- The characters of ASCII that are left out. -/
  lacks : List Char := []

namespace Charset

def extending (high : List Char) : Charset := { high }

def ascii : Charset := extending (List.replicate 128 '\ufffd')

def latin1 : Charset := extending ((List.range 128).map fun i => Char.ofNat (128 + i))

/-- ASCII without the tilde. -/
def tildeless : Charset := { ascii with lacks := ['~'] }

/-- The character that a byte stands for, if any. -/
def char? (s : Charset) (b : UInt8) : Option Char :=
  if b < 128 then (some (Char.ofNat b.toNat)).filter (!s.lacks.contains ·)
  else (s.high[b.toNat - 128]?).filter (· != '\ufffd')

/-- The text that bytes stand for, unless one of them stands for nothing. -/
def decode (s : Charset) (bs : List UInt8) : Option (List Char) := bs.mapM s.char?

end Charset

end Introspection.Text
