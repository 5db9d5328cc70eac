/-!
# Faults

Why a document cannot be read.

* `Fault`.
-/

namespace Introspection.Xml

/-- Why a document cannot be read. -/
inductive Fault where
  | malformed
  /-- The document declares an encoding that no one knows. -/
  | unknownEncoding (name : String)
  /-- The document declares an encoding of several bytes a character that cannot be read. -/
  | multiByteEncoding
  /-- The document declares an encoding that does not stand for text. -/
  | notTextEncoding (name : String)
  /-- The document declares an encoding that reads everything or nothing. -/
  | strictEncoding (name reason : String)
  | punycodeEncoding
deriving DecidableEq, Repr

/-- A value that must be present in a well-formed document. -/
def orMalformed {α : Type} : Option α → Except Fault α
  | some a => .ok a
  | none => .error .malformed

end Introspection.Xml
