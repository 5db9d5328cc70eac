import Introspection.Entity.OfElement

/-!
# Signatures

The parts of a stub line that are read from below an element: types, parameters and returned
values.

* `stubType`: the name of a type in stubs;
* `typeHint`, `returnHint`: the types of parameters, fields and returned values;
* `parameterList`: the parameters of a callable.
-/

namespace Introspection.Stub

open Xml

/-- The fundamental types with their names in stubs. -/
def fundamentalTypes : List (String × String) :=
  [("none", "None"), ("gboolean", "bool"), ("gchar", "int"), ("guchar", "int"), ("gint", "int"),
    ("guint", "int"), ("gint8", "int"), ("guint8", "int"), ("gint16", "int"), ("guint16", "int"),
    ("gint32", "int"), ("guint32", "int"), ("gint64", "int"), ("guint64", "int"),
    ("glong", "int"), ("gulong", "int"), ("gsize", "int"), ("gssize", "int"), ("GType", "int"),
    ("gfloat", "float"), ("gdouble", "float"), ("utf8", "str"), ("filename", "str"),
    ("gpointer", "object"), ("gconstpointer", "object")]

/-- The name of a type whose name is missing. -/
def anyType : String := "Any"

/-- The name of a type in stubs. -/
def stubType : Option String → String
  | none => anyType
  | some name => if name = "" then anyType else (fundamentalTypes.lookup name).getD name

/-- The type of a parameter, a returned value or a field. -/
def typeHint (e : Element) : String :=
  match e.firstChildNamed? "array" with
  | some array =>
    "list[" ++ stubType ((array.firstChildNamed? "type").bind (·.attribute? "name")) ++ "]"
  | none =>
    match e.firstChildNamed? "type" with
    | some t => stubType (t.attribute? "name")
    | none => anyType

def returnHint (e : Element) : String :=
  match e.firstChildNamed? "return-value" with
  | some r => typeHint r
  | none => "None"

/-- The name of a parameter in stubs. -/
def parameterName (e : Element) : String :=
  let name := e.attributeD "name"
  if name = "" then "arg" else name

def parameterEntry (e : Element) : String :=
  if (e.firstChildNamed? "varargs").isSome || isEllipsis (parameterName e) then "*args"
  else parameterName e ++ ": " ++ typeHint e

/-- The elements of the parameters that are listed: those of a callable but for receivers. -/
def listedElements (e : Element) : List Element :=
  ((e.firstChildNamed? "parameters").getD e).children.filter fun c =>
    c.tag != "instance-parameter" && "parameter".toList.isSuffixOf c.tag.toList

/-- The parameters of a callable behind the one that receives it. An empty receiver is none. -/
def parameterList (e : Element) (receiver : Option String) : String :=
  String.intercalate ", "
    ((receiver.filter (· != "")).toList ++ (listedElements e).map parameterEntry)

end Introspection.Stub
