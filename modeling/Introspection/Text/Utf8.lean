/-!
# UTF-8 with replacements

Bytes that are not quite UTF-8 are read all the same: where a character is broken off, the
replacement character stands for the bytes that were good until then, and a byte that can begin no
character is replaced by itself.

* `Utf8.Pending`, `Utf8.step`: a character that is begun, and one byte more;
* `Utf8.decode`: the characters of bytes.
-/

namespace Introspection.Text.Utf8

/-- A character of which some bytes are still to come. -/
structure Pending where
  /-- The bits so far. -/
  bits : Nat
  /-- How many bytes are still to come behind the next one. -/
  more : Nat
  /-- The range of the next byte. -/
  low : Nat := 0x80
  high : Nat := 0xBF
deriving DecidableEq, Repr

/-- What stands for bytes that are no character. -/
def replacement : Char := '\ufffd'

/-- Begins a character with its first byte; gives what is complete by then. -/
def begin (b : Nat) : Option Pending × List Char :=
  if b < 0x80 then (none, [Char.ofNat b])
  else if b < 0xC2 then (none, [replacement])
  else if b < 0xE0 then (some { bits := b - 0xC0, more := 0 }, [])
  else if b = 0xE0 then (some { bits := 0, more := 1, low := 0xA0 }, [])
  else if b = 0xED then (some { bits := 0xD, more := 1, high := 0x9F }, [])
  else if b < 0xF0 then (some { bits := b - 0xE0, more := 1 }, [])
  else if b = 0xF0 then (some { bits := 0, more := 2, low := 0x90 }, [])
  else if b < 0xF4 then (some { bits := b - 0xF0, more := 2 }, [])
  else if b = 0xF4 then (some { bits := 4, more := 2, high := 0x8F }, [])
  else (none, [replacement])

/-- Reads one byte; gives what is complete by then. -/
def step (p? : Option Pending) (b : Nat) : Option Pending × List Char :=
  match p? with
  | none => begin b
  | some p =>
    if p.low ≤ b ∧ b ≤ p.high then
      match p.more with
      | 0 => (none, [Char.ofNat (0x40 * p.bits + (b - 0x80))])
      | more + 1 => (some { bits := 0x40 * p.bits + (b - 0x80), more }, [])
    else
      let (q?, cs) := begin b
      (q?, replacement :: cs)

/-- The characters of bytes behind those of a character that is begun. -/
def decodeFrom : Option Pending → List UInt8 → List Char
  | none, [] => []
  | some _, [] => [replacement]
  | p?, b :: bs => (step p? b.toNat).2 ++ decodeFrom (step p? b.toNat).1 bs

def decode (bs : List UInt8) : List Char := decodeFrom none bs

end Introspection.Text.Utf8
