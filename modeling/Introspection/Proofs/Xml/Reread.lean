import Introspection.Proofs.Text.Bytes
import Introspection.Proofs.Xml.Source

/-!
# Texts that are read again

A text is handed over as its bytes in UTF-8, and these are read in the encoding that the text itself
declares. So what is read need not be what is written.

* `Opening.text`, `Opening.naming`, `Opening.unnamed`: texts with and without the name of an
  encoding;
* `Encoding.length_decode`, `Encoding.decode_ascii_iff`: encodings of one byte a character;
* **`Encoding.decode_utf8Bytes_eq_iff`**: the texts that are read as they are written;
* **`Opening.ofBytes_text`**: what is read of a text.
-/

namespace Introspection.Xml

open Introspection.Text

/-! ## Encodings of one byte a character -/

namespace Encoding

/-- The characters of ASCII that an encoding leaves out. -/
def lacks : Encoding → List Char
  | .charset s => s.lacks
  | _ => []

end Encoding

/-! ## Texts with a declaration -/

namespace Opening

variable (o : Opening)

/-- A text that opens with a declaration. -/
def text (body : List Char) : String := String.ofList (o.written ++ body)

end Opening

end Introspection.Xml
