import Introspection.Json.Basic

/-!
# Requests and responses

* `Request`, `Request.parameter?`, `Request.header?`: what is asked;
* `Content`, `Response`: what is answered.
-/

namespace Introspection.Http

/-- A request to a server. -/
structure Request where
  method : String := "GET"
  /-- The path, with its escapes. -/
  path : String
  query : List (String × String) := []
  /-- The headers; their names are in lower case. -/
  headers : List (String × String) := []
  body : List UInt8 := []
deriving Repr

/-- The value of a parameter. Of parameters with the same name the last one counts. -/
def Request.parameter? (r : Request) (name : String) : Option String := r.query.reverse.lookup name

/-- The value of a header. -/
def Request.header? (r : Request) (name : String) : Option String := r.headers.lookup name

/-- What a response brings. -/
inductive Content where
  | empty
  | json (j : Json)
  | text (s : String)
deriving Repr, Inhabited

/-- The answer to a request. -/
structure Response where
  status : Nat := 200
  content : Content := .empty
  /-- The tag that tells versions of the content apart. -/
  etag : Option String := none
  /-- For how long the content may be kept. -/
  cacheControl : Option String := none
  /-- The methods that the path allows. -/
  allow : Option String := none
deriving Repr, Inhabited

end Introspection.Http
