import GraphEngine.Http.AccessKey
import GraphEngine.Http.Route
import GraphEngine.Guid

/-!
The caller's side of HTTP: a request for each call, and what its response means.
-/
namespace GraphEngine

namespace Client

inductive Failure where
  | unreachable (server fault : String)
  | unauthorized
  | refused (status : Nat) (kind message : String)
  | unreadable (reason : String)
deriving DecidableEq

def Failure.message : Failure → String
  | .unreachable server fault => "Cannot connect to Sphynx at " ++ server ++ ": " ++ fault
  | .unauthorized => "Unauthorized: invalid or missing API key"
  | .refused status kind message => kind ++ s!" ({status}): " ++ message
  | .unreadable reason => "Parse error: " ++ reason

/-- A call with its argument. -/
inductive Call where
  | health
  | canCompute (descriptor : String)
  | compute (descriptor : String)
  | getScalar (guid : Guid)
  | hasInMemory (guid : Guid)
  | hasOnDisk (guid : Guid)
  | readFromDisk (guid : Guid)
deriving DecidableEq

/-- What a call answers. -/
inductive Answer where
  | value (value : Json)
  | flag (holds : Bool)
  | text (text : String)
  | done
deriving DecidableEq

namespace Call

open Http (Route Request Response)

def route : Call → Route
  | .health => .health
  | .canCompute _ => .canCompute
  | .compute _ => .compute
  | .getScalar _ => .getScalar
  | .hasInMemory _ => .hasInMemory
  | .hasOnDisk _ => .hasOnDisk
  | .readFromDisk _ => .readFromDisk

/-- The only field of the body, if there is a body. -/
def field? : Call → Option String
  | .health => none
  | .canCompute descriptor | .compute descriptor => some descriptor
  | .getScalar guid | .hasInMemory guid | .hasOnDisk guid | .readFromDisk guid => some guid.text

def bodyText (call : Call) : String :=
  match call.field? with
  | some text => (Json.object [(call.route.fieldName, .string text)]).compact
  | none => ""

def keyHeaders : Option Http.AccessKey → List (String × String)
  | some key => [("authorization", Http.AccessKey.scheme ++ key.text)]
  | none => []

def contentHeaders (call : Call) : List (String × String) :=
  if call.field?.isSome then [("content-type", "application/json")] else []

def request (call : Call) (key : Option Http.AccessKey) : Request where
  method := call.route.method
  target := call.route.path
  headers := keyHeaders key ++ call.contentHeaders
  body := Utf8.encode call.bodyText

end Call

/-- What a server said. -/
structure Reply where
  status : Nat
  body : List UInt8
deriving DecidableEq

namespace Reply

open Http (Body Response)

def bodyBytes : Body → List UInt8
  | .none => []
  | .json value => Utf8.encode value.compact
  | .text text => Utf8.encode text

def ofResponse (response : Response) : Reply := ⟨response.status, bodyBytes response.body⟩

def isSuccess (reply : Reply) : Bool := 200 ≤ reply.status && reply.status < 300

/-- The kind and the message of an error, as the server words them. -/
def errorFields? (reply : Reply) : Option (String × String) := do
  let tree ← (Json.Document.ofText (Utf8.decodeLossy reply.body)).tree?
  let fields ← tree.fields? ["error", "kind"]
  return (← (← fields.lookup "kind").text?, ← (← fields.lookup "error").text?)

/-- A body that no server error words is shown as it is. -/
def refusal (reply : Reply) : Failure :=
  match reply.errorFields? with
  | some (kind, message) => .refused reply.status kind message
  | none => .refused reply.status "Http" (Utf8.decodeLossy reply.body)

def undecodable : Failure := .unreadable "error decoding response body"

def readAs {α : Type} (read : Json.Tree → Except Json.Fault α) (name : String)
    (reply : Reply) : Except Failure α :=
  match (Json.Document.ofBytes reply.body).field read name with
  | .ok value => .ok value
  | .error _ => .error undecodable

def value (reply : Reply) : Except Failure Json :=
  match (Json.Document.ofBytes reply.body).tree?.bind (Json.Tree.toJson? Json.nestingLimit) with
  | some value => .ok value
  | none => .error undecodable

/-- The answer in a body, which has the shape that belongs to the call. -/
def answer (reply : Reply) (call : Call) : Except Failure Answer :=
  let name := call.route.answerName
  match call with
  | .health => reply.value.map .value
  | .compute _ | .readFromDisk _ => reply.value.map fun _ => .done
  | .getScalar _ => (reply.readAs Json.Tree.text name).map .text
  | .canCompute _ | .hasInMemory _ | .hasOnDisk _ =>
      (reply.readAs Json.Tree.flag name).map .flag

/-- What the reply means for the call. -/
def read (reply : Reply) (call : Call) : Except Failure Answer :=
  if reply.status = 401 then .error .unauthorized
  else if ! reply.isSuccess then .error reply.refusal
  else reply.answer call

end Reply
end Client
end GraphEngine
