import Introspection.Http.Message
import Introspection.Text.Integer

/-!
# Refusals

Why a service does not give what it is asked for.

* `InputError`, `InputFault`: what is wrong with a parameter or a body, and where;
* `Refusal`, `Refusal.response`: the reasons and the responses that state them.
-/

namespace Introspection.Service

open Http

/-! ## Faults of the input -/

/-- What is wrong with a value that a client sends. -/
inductive InputError where
  | missing
  /-- A text has fewer than `least` characters. -/
  | shortText (least : Nat)
  | notInteger
  | longInteger
  | below (least : Nat)
  | above (most : Nat)
  | notText
  | notObject
  | notJson
deriving DecidableEq, Repr

namespace InputError

def name : InputError → String
  | .missing => "missing"
  | .shortText _ => "string_too_short"
  | .notInteger => "int_parsing"
  | .longInteger => "int_parsing_size"
  | .below _ => "greater_than_equal"
  | .above _ => "less_than_equal"
  | .notText => "string_type"
  | .notObject => "model_attributes_type"
  | .notJson => "json_invalid"

def message : InputError → String
  | .missing => "Field required"
  | .shortText least =>
    "String should have at least " ++ Text.decimal least ++
      (if least = 1 then " character" else " characters")
  | .notInteger => "Input should be a valid integer, unable to parse string as an integer"
  | .longInteger => "Unable to parse input string as an integer, exceeded maximum size"
  | .below least => "Input should be greater than or equal to " ++ Text.decimal least
  | .above most => "Input should be less than or equal to " ++ Text.decimal most
  | .notText => "Input should be a valid string"
  | .notObject => "Input should be a valid dictionary or object to extract fields from"
  | .notJson => "JSON decode error"

end InputError

/-- A step on the way to a value. -/
inductive Step where
  | name (s : String)
  | position (n : Nat)
deriving DecidableEq, Repr

/-- A step as JSON. -/
def Step.json : Step → Json
  | .name s => .text s
  | .position n => .integer n

/-- An error with the way to the value that has it. -/
structure InputFault where
  error : InputError
  place : List Step
deriving DecidableEq, Repr

def InputFault.json (f : InputFault) : Json :=
  .object [("type", .text f.error.name), ("loc", .list (f.place.map Step.json)),
    ("msg", .text f.error.message)]

/-! ## Reasons -/

/-- Why a service does not give what it is asked for. -/
inductive Refusal where
  | noRoute
  | wrongMethod
  | noType (name : String)
  | noClass (name : String)
  /-- The document that the model was built from is gone. -/
  | noDocument
  | invalid (faults : List InputFault)
  | malformedDocument
  | unreadableBody
  | failed
deriving DecidableEq, Repr

def Refusal.one (error : InputError) (place : List Step) : Refusal := .invalid [⟨error, place⟩]

def detailResponse (status : Nat) (detail : Json) : Response :=
  { status, content := .json (.object [("detail", detail)]) }

/-- A response that consists of the name of an error and more fields. -/
def errorResponse (status : Nat) (error detail : String) (more : List (String × Json)) :
    Response :=
  { status
    content := .json (.object (("error", .text error) :: ("detail", .text detail) :: more)) }

/-- The path of a request as it is shown: without tabs and line ends, up to where a query or a
fragment would begin. -/
def shownPath (path : String) : String :=
  String.ofList ((path.toList.filter fun c => c ∉ ['\t', '\n', '\r']).takeWhile fun c =>
    c ∉ ['?', '#'])

/-- The response that nothing is found at a path. -/
def notFound (path detail : String) : Response :=
  errorResponse 404 "Not Found" detail [("path", .text (shownPath path))]

/-- The response that states a refusal of a request for a path. -/
def Refusal.response (path : String) : Refusal → Response
  | .noRoute => notFound path "Not Found"
  | .noType name => notFound path ("Type not found: " ++ name)
  | .noClass name => notFound path ("Class not found: " ++ name)
  | .noDocument => notFound path "Source document is no longer readable"
  | .wrongMethod => { detailResponse 405 (.text "Method Not Allowed") with allow := some "GET" }
  | .invalid faults => detailResponse 422 (.list (faults.map InputFault.json))
  | .malformedDocument => detailResponse 422 (.text "Document is not well-formed XML")
  | .unreadableBody => detailResponse 400 (.text "There was an error parsing the body")
  | .failed =>
    errorResponse 500 "Internal Server Error"
      "An unexpected error occurred processing your request" []

end Introspection.Service
