import Introspection.NameSet
import Introspection.Text.Quoted

/-!
# Configurations

How a model is built.

* `Config`: the options with their defaults;
* `Config.text`: the written form of a configuration, of which keys and tags are made.
-/

namespace Introspection

/-- How a model is built. -/
structure Config where
  /-- The prefix of path queries that stands for the namespace of the root element. -/
  rootPrefix : String := "gir"
  /-- What separates the entries of lists of prefixes. -/
  delimiter : String := ","
  /-- The names of definitions that are left out. -/
  blacklist : NameSet := .empty
  /-- The name of the entity whose type is the error type. -/
  errorTypeName : String := "Error"
  /-- The error type if no such entity is kept. -/
  defaultErrorType : String := "GErrorType"
deriving DecidableEq, Repr

def NameSet.text (s : NameSet) : String :=
  if s.names.isEmpty then "frozenset()"
  else "frozenset(\x7b" ++ String.intercalate ", " (s.names.map Text.quoted) ++ "\x7d)"

def Config.text (c : Config) : String :=
  "BuilderConfig(default_prefix=" ++ Text.quoted c.rootPrefix ++
    ", prefix_delimiter=" ++ Text.quoted c.delimiter ++
    ", blacklist=" ++ c.blacklist.text ++
    ", error_type_name=" ++ Text.quoted c.errorTypeName ++
    ", default_error_type=" ++ Text.quoted c.defaultErrorType ++ ")"

end Introspection
