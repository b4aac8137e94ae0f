import GraphEngine.Engine
import GraphEngine.Http.AccessKey
import GraphEngine.Http.Route
import GraphEngine.Persistence
import GraphEngine.Version

/-!
Calls to the engine over HTTP.

The key is asked for before a request is looked at any further, except for a health check. What a
computation hands back is written to the ordered area before the next request.
-/
namespace GraphEngine

/-- The status that stands for an error. -/
def EngineError.httpStatus : EngineError → Nat
  | .unsupportedOperation _ => 501
  | .entityNotFound _ => 404
  | .typeMismatch .. => 422
  | .invalidDescriptor _ | .invalidParameter .. | .unknownSlot _ | .invalidGuid _ => 400
  | .helperFailure .. => 502
  | .corruptEntity _ | .duplicateOperation _ | .io _ | .serialization _ => 500

namespace Http

structure Server where
  engine : Engine
  key : Option AccessKey

/-- An answered request. -/
structure Exchange where
  response : Response
  remarks : List (Except EngineError Json)
  store : Store

namespace Response

def empty (status : Nat) : Response := ⟨status, .none⟩

def ok (members : List (String × Json)) : Response := ⟨200, .json (.object members)⟩

def health : Response := ok [("status", .string "ok"), ("version", .string version)]

def unauthorized : Response := ⟨401, .text "Unauthorized"⟩

def ofError (error : EngineError) : Response :=
  ⟨error.httpStatus,
    .json (.object [("error", .string error.message), ("kind", .string error.kind)])⟩

def ofResult {α : Type} (members : α → List (String × Json)) : Except EngineError α → Response
  | .ok value => ok (members value)
  | .error error => ofError error

/-- The same response to a request for headers alone. -/
def withoutBody (response : Response) : Response := { response with body := .none }

end Response

namespace Server

def compute (server : Server) (store : Store) (text : String) : Exchange :=
  let computation := server.engine.compute store text
  match computation.result with
  | .ok list => ⟨.ok [], computation.remarks, computation.store.persistAll list⟩
  | .error error => ⟨.ofError error, computation.remarks, computation.store⟩

def readFromDisk (store : Store) (guid : Guid) : Exchange :=
  match store.promote guid with
  | .ok store => ⟨.ok [], [], store⟩
  | .error error => ⟨.ofError error, [], store⟩

/-- The call itself, given the only field of its request. -/
def call (server : Server) (store : Store) (route : Route) (field : String) : Exchange :=
  match route with
  | .health => ⟨.health, [], store⟩
  | .canCompute =>
      ⟨.ofResult (fun answer => [(route.answerName, .boolean answer)])
          (server.engine.canCompute field), [], store⟩
  | .compute => server.compute store field
  | .getScalar =>
      ⟨.ofResult (fun text => [(route.answerName, .string text)]) (Engine.scalarText store ⟨field⟩),
        [], store⟩
  | .hasInMemory => ⟨.ok [(route.answerName, .boolean (store.contains ⟨field⟩))], [], store⟩
  | .hasOnDisk =>
      ⟨.ofResult (fun answer => [(route.answerName, .boolean answer)]) (store.isOnDisk ⟨field⟩),
        [], store⟩
  | .readFromDisk => readFromDisk store ⟨field⟩

def serve (server : Server) (store : Store) (route : Route) (request : Request) : Exchange :=
  match route with
  | .health => ⟨.health, [], store⟩
  | route =>
      match request.field route.fieldName with
      | .ok field => server.call store route field
      | .error status => ⟨.empty status, [], store⟩

def dispatch (server : Server) (store : Store) (request : Request) : Exchange :=
  match Route.ofPath? request.path with
  | none => ⟨.empty 404, [], store⟩
  | some route =>
      if ! route.accepts request.method then ⟨.empty 405, [], store⟩
      else
        let exchange := server.serve store route request
        if request.method = "HEAD" then
          { exchange with response := exchange.response.withoutBody }
        else exchange

def isAdmitted (server : Server) (request : Request) : Bool :=
  match server.key with
  | none => true
  | some key => request.path = Route.health.path || key.admits request

/-- Whether a known path is asked for its headers alone. -/
def asksHeaders (request : Request) : Bool :=
  request.method = "HEAD" && (Route.ofPath? request.path).isSome

def refuse (request : Request) : Response :=
  if asksHeaders request then Response.unauthorized.withoutBody else .unauthorized

def respond (server : Server) (store : Store) (request : Request) : Exchange :=
  if server.isAdmitted request then server.dispatch store request
  else ⟨refuse request, [], store⟩

end Server
end Http
end GraphEngine
