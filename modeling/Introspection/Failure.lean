import Introspection.Text.Quoted

/-!
# Failures

Why an operation gives no answer at all. A document that is not well formed is no failure: loading
it simply gives nothing.

* `Failure`, `Failure.message`: the reasons and how they are told.
-/

namespace Introspection

/-- Why an operation gives no answer. -/
inductive Failure where
  /-- A document declares an encoding that no one knows. -/
  | unknownEncoding (name : String)
  /-- A document declares an encoding of several bytes a character that cannot be read. -/
  | multiByteEncoding
  /-- A document declares an encoding that does not stand for text. -/
  | notTextEncoding (name : String)
  /-- A document declares an encoding that reads everything or nothing. -/
  | strictEncoding (name reason : String)
  | punycodeEncoding
  /-- A list of names is to be split at an empty delimiter. -/
  | emptyDelimiter
  | noPath
  /-- A path holds the null character, which no file system allows. -/
  | nullInPath
  /-- Something is to be read of a folder. -/
  | isFolder (path : String)
  /-- A path query uses a prefix that stands for no namespace. -/
  | unknownPrefix (name : String)
  /-- A path query starts at the document and not at the root element. -/
  | absolutePath
  /-- A path query asks for descendants without naming them. -/
  | unnamedDescendants
  /-- A path query is empty, so there is nothing to use as its result. -/
  | emptyPath (use : String)
  /-- A path query ends inside a step. -/
  | missingStep
  /-- A path query holds a sign or a text with no meaning where it stands. -/
  | unknownStep (text : String)
  /-- A path query holds something in brackets that is no condition. -/
  | unknownPredicate
  | unknownFunction
  | unknownExpression
  /-- A path query asks for a position before the first one. -/
  | lowPosition
  /-- A path query asks for a position behind the last one. -/
  | highOffset
  /-- A path query asks for a position with too many digits. -/
  | longPosition (digits : Nat)
  /-- An option has a key whose value cannot be set. -/
  | fixedOption (key : String)
  /-- The document that stands in for others cannot be loaded. -/
  | noEmbedded
deriving DecidableEq, Repr

def Failure.message : Failure → String
  | .unknownEncoding name => "unknown encoding: " ++ name
  | .multiByteEncoding => "multi-byte encodings are not supported"
  | .notTextEncoding name =>
    "'" ++ String.ofList (name.toList.take 400) ++
      "' is not a text encoding; use codecs.decode() to handle arbitrary codecs"
  | .strictEncoding name reason =>
    "decoding with '" ++ name ++ "' codec failed (UnicodeError: " ++ reason ++ ")"
  | .punycodeEncoding =>
    "'ascii' codec can't decode byte 0x80 in position 82: ordinal not in range(128)"
  | .emptyDelimiter => "empty separator"
  | .noPath => "No GIR path provided and no default gir_path set"
  | .nullInPath => "embedded null byte"
  | .isFolder path => "[Errno 21] Is a directory: " ++ Text.quoted path
  | .unknownPrefix name => "prefix " ++ Text.quoted name ++ " not found in prefix map"
  | .absolutePath => "cannot use absolute path on element"
  | .unnamedDescendants => "invalid descendant"
  | .emptyPath use => "'NoneType' object is not " ++ use
  | .missingStep => "'NoneType' object is not callable"
  | .unknownStep text => Text.quoted text
  | .unknownPredicate => "invalid predicate"
  | .unknownFunction => "unsupported function"
  | .unknownExpression => "unsupported expression"
  | .lowPosition => "XPath position >= 1 expected"
  | .highOffset => "XPath offset from last() must be negative"
  | .longPosition digits =>
    "Exceeds the limit (4300 digits) for integer string conversion: value has " ++
      toString digits ++ " digits; use sys.set_int_max_str_digits() to increase the limit"
  | .fixedOption "__dict__" => "__dict__ must be set to a dictionary, not a 'str'"
  | .fixedOption "__class__" => "__class__ must be set to a class, not 'str' object"
  | .fixedOption key => "attribute '" ++ key ++ "' of 'BuilderConfig' objects is not writable"
  | .noEmbedded => "Embedded fallback document could not be built"

end Introspection
