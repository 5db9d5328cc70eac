import Introspection.Config.Reader
import Introspection.Http.Target
import Introspection.Service.Answer
import Introspection.Service.Posted
import Introspection.Service.Route

/-!
# Servers

A server answers requests about one document. All its repositories share a cache.

* `Supply`: where the repository for a request comes from;
* `Server`, `Server.repository`: a server and the repository it uses;
* `Server.respond`: the response to a request.
-/

namespace Introspection.Service

open Http

/-- Where the repository for a request comes from. -/
inductive Supply where
  /-- One repository serves all requests. -/
  | ready (r : Repository)
  /-- Every request gets a new repository. -/
  | fresh (path : Option String) (config : Config)
  /-- The first request that needs a repository gets a new one, which is kept if there is no
  failure; the configuration is read on that occasion. -/
  | pending (path : Option String) (options : Option String)
deriving Repr

/-- A server with the files around it. -/
structure Server where
  files : Files
  supply : Supply
  cache : Cache (Cached Empty) := .empty _ 3600
  /-- The time that the cache goes by. -/
  now : Float := 0
deriving Repr

namespace Server

/-- The repository for a request. -/
def repository (s : Server) : Server × Outcome Repository :=
  match s.supply with
  | .ready r => (s, .ok r)
  | .fresh path config =>
    let (cache, o) := Repository.ofPath s.cache s.now s.files path config
    ({ s with cache }, o)
  | .pending path options =>
    let read := Config.readOptional options
    match read.result with
    | .error e => (s, ⟨read.warnings, .error e⟩)
    | .ok config =>
      let (cache, o) := Repository.ofPath s.cache s.now s.files path config
      let supply := match o.result with
        | .ok r => .ready r
        | .error _ => s.supply
      ({ s with cache, supply }, ⟨read.warnings ++ o.warnings, o.result⟩)

/-- For how long a client may keep what is known about a model. -/
def keepTime : String := "public, max-age=3600"

/-- What is known about a model, unless the client has it already. -/
def metadataResponse (r : Repository) (known : Option String) : Response :=
  if known = some r.tag then { status := 304 }
  else { content := .json r.metadata, etag := some r.tag, cacheControl := some keepTime }

/-- The response of a repository to a request. -/
def answer (fs : Files) (repo : Repository) (r : Request) : Route → Except Refusal Response
  | .health => .ok { content := .json repo.health }
  | .metadata => .ok (metadataResponse repo (r.header? "if-none-match"))
  | .types => .ok { content := .json (repo.listing (r.parameter? "kind")) }
  | .detail name => (repo.detail name).map fun j => { content := .json j }
  | .lineage name => (repo.lineage name).map fun l => { content := .json l.json }
  | .search => (Search.read r).map fun s => { content := .json (repo.found s) }
  | .diagnostics => .ok { content := .json repo.noticed }
  | .stub => (repo.stub fs).map fun s => { content := .text s }

/-- The response to a posted document. -/
def posted (r : Request) : Except Refusal Response := do
  let stub ← stubOfPosted (← readPosted r)
  return { content := .json stub.json }

def stated (path : String) : Except Refusal Response → Response
  | .ok response => response
  | .error refusal => refusal.response path

/-- The response where a path stands for nothing: the way to go if there are slashes too many. -/
def elsewhere (path : String) : Response :=
  if ((withoutSlashes? path).bind Route.ofPath?).isSome then { status := 307 }
  else Refusal.noRoute.response path

/-- The response to a request, with the warnings given on the way. -/
def respondFully (s : Server) (r : Request) : Server × List Warning × Response :=
  let path := percentDecode r.path
  match Route.ofPath? path with
  | none => (s, [], elsewhere path)
  | some route =>
    if r.method = "GET" then
      let (s, o) := s.repository
      (s, o.warnings, match o.result with
        | .error _ => Refusal.failed.response path
        | .ok repo => stated path (answer s.files repo r route))
    else if r.method = "POST" ∧ route = .stub then (s, [], stated path (posted r))
    else (s, [], Refusal.wrongMethod.response path)

/-- The response to a request, with the warnings given on the way. One that asks for headers only
gets no content. -/
def respond (s : Server) (r : Request) : Server × List Warning × Response :=
  let (s, warnings, response) := s.respondFully r
  (s, warnings, if r.method = "HEAD" then { response with content := .empty } else response)

end Server

end Introspection.Service
