import RemoteRead.Http.Check
import RemoteRead.Service

/-!
# The application

The application answers read requests and questions about its health. A request is answered in
layers. Innermost it is routed, which ends in a reply or in an error. Around that, failures are
turned into replies (`handled`). Then the reply gets the identifier of its request, which is the one
that the client sent or a fresh one (`identified`). What no layer inside has turned into a reply is
answered outermost, without a header for the identifier and without a word about the cause
(`settled`).

The routes that the web framework adds by itself are left out: `/docs` and `/redoc`, which show the
documentation of the endpoints, and `/openapi.json`, their schema. Those paths are answered like any
other that leads nowhere.
-/

namespace RemoteRead.Http

/-- A request. -/
structure Request where
  /-- The method, in capital letters. -/
  method : Text
  /-- The path, which starts with a slash. -/
  path : Text
  /-- The text after the question mark. -/
  query : Text
  /-- The headers as they were received, where a name may be repeated. -/
  headers : Headers
  /-- The octets of the body. -/
  body : List UInt8

/-- What an answer holds. -/
inductive Content where
  /-- A document in JSON. -/
  | document (v : Value)
  /-- The octets of a response to a read request. -/
  | response (octets : List UInt8)
  /-- Nothing but the place where to ask. -/
  | redirect (location : Text)

/-- The type of what an answer holds. -/
def Content.type? : Content → Option Text
  | document _ => some "application/json"
  | response _ => some contentType
  | redirect _ => none

/-- The encoding of what an answer holds. -/
def Content.encoding? : Content → Option Text
  | response _ => some contentEncoding
  | _ => none

/-- What is replied to a request, before the header for its identifier is added. -/
structure Reply where
  /-- The status. -/
  status : Nat
  /-- What the reply holds. -/
  content : Content

/-- An answer. -/
structure Response where
  /-- The status. -/
  status : Nat
  /-- The identifier in the header of the answer. -/
  requestId : Option Text
  /-- What the answer holds. -/
  content : Content

/-- What makes the body of a response from that of a request, with the statements it executes. -/
abbrev Reader := List UInt8 → Except Error (List UInt8) × List StoreCall

/-- The reader that a service is. -/
def Reader.ofService [Host] (s : Service) : Reader := fun body =>
  let o := s.readBody body
  (o.result.mapError Error.failure, o.calls)

/-- What is only known while a request is answered. -/
structure Occasion where
  /-- An identifier for a request that has none. -/
  freshId : Text
  /-- The time, as documents show it. -/
  timestamp : Text

/-- An application. -/
structure App where
  /-- The version that it goes by. -/
  version : Text
  /-- What answers read requests, once it has been made. -/
  reader : Option Reader

/-- What a path is for. -/
inductive Endpoint where
  /-- Whether the server runs. -/
  | health
  /-- Whether read requests can be answered. -/
  | readiness
  /-- Whether the server is alive. -/
  | liveness
  /-- Read requests. -/
  | read
deriving DecidableEq

namespace Endpoint

/-- Every endpoint. -/
def all : List Endpoint := [health, readiness, liveness, read]

/-- The path of an endpoint. -/
def path : Endpoint → Text
  | health => "/health"
  | readiness => "/health/ready"
  | liveness => "/health/live"
  | read => "/api/v1/prom/read"

/-- The only method of an endpoint. -/
def method : Endpoint → Text
  | read => "POST"
  | _ => "GET"

/-- The endpoint at a path. -/
def ofPath? (path : Text) : Option Endpoint := all.find? fun e => e.path = path

end Endpoint

/-- The path with a slash at its end where it has none, and without those that it has. -/
def otherSpelling (path : Text) : Text :=
  let slash := CodePoint.ofChar '/'
  if path.getLast? = some slash then Text.trimRight (· == slash) path else path ++ [slash]

/-- What a path leads to: an endpoint, or the other spelling of its path. -/
def destination? (path : Text) : Option (Endpoint ⊕ Text) :=
  match Endpoint.ofPath? path with
  | some e => some (.inl e)
  | none =>
    let other := otherSpelling path
    if path ≠ Text.ofString "/" ∧ (Endpoint.ofPath? other).isSome then some (.inr other) else none

/-- The identifier of a request: that of the first header for it, unless it is empty. -/
def Request.id? (r : Request) : Option Text :=
  ((r.headers.find? fun (k, _) => k.lower = Text.ofString "x-request-id").map (·.2)).filter
    fun id => !id.isEmpty

/-- The headers with their names in lower case and each name once: of several headers with one name
the first. These are the headers that are checked. -/
def Request.distinctHeaders (r : Request) : Headers :=
  r.headers.foldl (fun hs (k, v) =>
    if hs.any fun (l, _) => l = k.lower then hs else hs ++ [(k.lower, v)]) []

/-- A document about something that is wrong. -/
def detail (t : Text) : Content := .document (.record [("detail", .text t)])

/-- The failure of an application that has no service yet. -/
def notInitialized : Failure :=
  .grouped .configuration (.text "Remote read service is not initialized") []

namespace App

/-- A document about the state of the application. -/
def state (a : App) (o : Occasion) (status : Text) : Content :=
  .document (.record
    [("status", .text status), ("timestamp", .text o.timestamp), ("version", .text a.version)])

/-- The octets that answer a read request, checked before the service sees it. -/
def read (a : App) (r : Request) : Except Error (List UInt8) × List StoreCall :=
  match a.reader with
  | none => (.error notInitialized, [])
  | some reader =>
    match RequestInfo.ofRequest r.distinctHeaders r.body.length with
    | .error f => (.error f, [])
    | .ok _ => reader r.body

/-- The reply of an endpoint to a request with its method. -/
def serve (a : App) (o : Occasion) (r : Request) : Endpoint → Except Error Reply × List StoreCall
  | .health => (.ok ⟨200, a.state o "healthy"⟩, [])
  | .liveness => (.ok ⟨200, a.state o "alive"⟩, [])
  | .readiness =>
    (.ok (if a.reader.isSome then ⟨200, a.state o "ready"⟩ else ⟨503, a.state o "starting"⟩), [])
  | .read =>
    let (octets, calls) := a.read r
    (octets.map fun octets => ⟨200, .response octets⟩, calls)

/-- The reply that a request leads to, and the statements that were executed for it. -/
def route (a : App) (o : Occasion) (r : Request) : Except Error Reply × List StoreCall :=
  match destination? r.path with
  | none => (.ok ⟨404, detail "Not Found"⟩, [])
  | some (.inr other) =>
    let query := if r.query.isEmpty then [] else "?" ++ r.query
    let host := (header? r.distinctHeaders "host").getD "localhost"
    (.ok ⟨307, .redirect ("http://" ++ host ++ other ++ query)⟩, [])
  | some (.inl e) =>
    if r.method = e.method then a.serve o r e else (.ok ⟨405, detail "Method Not Allowed"⟩, [])

end App

/-! ## Layers around the routes -/

/-- The reply to a failure. -/
def failureReply (id : Text) (f : Failure) : Reply :=
  ⟨f.status, .document (.record [("detail", .text f.message),
    ("error_type", .text f.name), ("request_id", .text id)])⟩

/-- Failures are replied to, if their message has an encoded form; otherwise nothing comes back. -/
def handled (id : Text) : Except Error Reply → Option Reply
  | .ok reply => some reply
  | .error (.failure f) =>
    if f.message.all CodePoint.isScalar then some (failureReply id f) else none
  | .error (.fault _) => none

/-- What comes back gets the header for the identifier. -/
def identified (id : Text) (reply : Option Reply) : Option Response :=
  reply.map fun reply => ⟨reply.status, some id, reply.content⟩

/-- The answer when something went wrong in an unexpected way. -/
def faultResponse (id : Text) : Response :=
  ⟨500, none, .document (.record
    [("detail", .text "Internal server error"), ("request_id", .text id)])⟩

/-- Where nothing comes back, there still is an answer. -/
def settled (id : Text) (response : Option Response) : Response :=
  response.getD (faultResponse id)

/-- The answer to a request, and the statements that were executed for it. -/
def App.answer (a : App) (o : Occasion) (r : Request) : Response × List StoreCall :=
  let id := r.id?.getD o.freshId
  let (reply, calls) := a.route o r
  (settled id (identified id (handled id reply)), calls)

end RemoteRead.Http
