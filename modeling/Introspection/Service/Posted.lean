import Introspection.Json.Reader
import Introspection.Service.Refusal
import Introspection.Stub.Walk
import Introspection.Text.Blank

/-!
# Posted documents

A client may post a document as a field of a JSON object and gets its stub.

* `isJsonType`: which bodies are read as JSON;
* `readPosted`: the document in the body of a request;
* `PostedStub`, `stubOfPosted`: the stub of a document.
-/

namespace Introspection.Service

open Http Text

/-- Whether a content type, whose parameters stand behind a semicolon, is one of JSON. -/
def isJsonType (s : String) : Bool :=
  let type := String.ofList (trim (s.toList.takeWhile (· != ';')))
  match splitOn ['/'] (lower type).toList with
  | [main, sub] =>
    main == "application".toList && (sub == "json".toList || "+json".toList.isSuffixOf sub)
  | _ => false

/-- Bytes without a byte order mark. -/
def withoutMark : List UInt8 → List UInt8
  | 0xEF :: 0xBB :: 0xBF :: bs => bs
  | bs => bs

/-- Refuses a value. A response quotes what it refuses, and fails if that cannot be exchanged. -/
def refuseValue (j : Json) (error : InputError) (place : List Step) : Refusal :=
  if j.isExchangeable then .one error place else .failed

/-- The place of a body and of the document in it. -/
def bodyPlace : List Step := [.name "body"]

def documentPlace : List Step := bodyPlace ++ [.name "document"]

def documentOfJson : Json → Except Refusal String
  | .null => .error (.one .missing bodyPlace)
  | .object fields =>
    match (Json.object fields).field? "document" with
    | none => .error (refuseValue (.object fields) .missing documentPlace)
    | some (.text s) => if s = "" then .error (.one (.shortText 1) documentPlace) else .ok s
    | some j => .error (refuseValue j .notText documentPlace)
  | j => .error (refuseValue j .notObject bodyPlace)

def readBody (bytes : List UInt8) : Except Refusal Json :=
  match String.fromUTF8? ⟨(withoutMark bytes).toArray⟩ with
  | none => .error .unreadableBody
  | some s =>
    match Json.read s.toList with
    | .ok j => .ok j
    | .error .longInteger => .error .unreadableBody
    | .error (.misfit rest) =>
      .error (.one .notJson (bodyPlace ++ [.position (s.length - rest)]))

/-- The document in the body of a request. -/
def readPosted (r : Request) : Except Refusal String :=
  if r.body.isEmpty then .error (.one .missing bodyPlace)
  else if isJsonType ((r.header? "content-type").getD "application/json") then do
    documentOfJson (← readBody r.body)
  else .error (.one .notObject bodyPlace)

/-- The stub of a posted document. -/
structure PostedStub where
  lines : List String
  /-- The number of nodes that met no rule. -/
  unhandled : Nat
deriving DecidableEq, Repr

def PostedStub.json (s : PostedStub) : Json :=
  .object [("lines", .texts s.lines), ("unhandled", .integer s.unhandled)]

def stubOfPosted (document : String) : Except Refusal PostedStub :=
  match Document.loadText document with
  | .error _ => .error .failed
  | .ok none => .error .malformedDocument
  | .ok (some d) =>
    let (w, lines) := (Stub.Walk.start .root).run d.tree
    .ok ⟨lines, w.unhandled⟩

end Introspection.Service
