import GraphEngine.Client.Basic
import GraphEngine.Proofs.Http.Runs
import GraphEngine.Proofs.Json.Bytes
import GraphEngine.Proofs.Persistence.Reordering

/-!
Calls over HTTP come to what they come to without it.

The request that is made for a call gets through to the engine with its argument unchanged. What
the engine answers, or the error it answers with, is what the caller finds in the response,
whatever characters are in it.
-/
namespace GraphEngine.Client

open Http (AccessKey MediaType Request Response Route Server)

variable {call : Call} {key : Option AccessKey} {server : Server} {store : Store}

theorem route_request (call : Call) (key : Option AccessKey) :
    Route.ofPath? (call.request key).path = some call.route := by
  have paths : ∀ route : Route,
      Route.ofPath? (Request.path ⟨"", route.path, [], []⟩) = some route := by
    intro route
    cases route <;> decide +kernel
  exact paths call.route

theorem isJson_request {text : String} (given : call.field? = some text)
    (key : Option AccessKey) : (call.request key).isJson = true := by
  have named : (call.request key).header? "content-type" = some "application/json" := by
    have own : "content-type".toLower = "content-type" := by decide +kernel
    have other : "authorization".toLower ≠ "content-type" := by decide +kernel
    have visible : "application/json".toList.all Request.isVisible = true := by decide +kernel
    have found : (call.request key).headers.find? (fun header => header.1.toLower = "content-type")
        = some ("content-type", "application/json") := by
      cases key <;> simp [Call.request, Call.keyHeaders, Call.contentHeaders, given, own, other]
    simp only [Request.header?, found, Option.map_some, Option.filter_some, visible, if_true]
  have parsed : MediaType.parse? "application/json" = some ⟨"application", "json", none⟩ := by
    decide +kernel
  rw [Request.isJson, named, Option.bind_some, parsed]
  rfl

/-- The argument arrives as it was given. -/
theorem field_request {text : String} (given : call.field? = some text)
    (fits : (call.request key).body.length ≤ Request.bodyLimit) :
    (call.request key).field call.route.fieldName = .ok text := by
  have body : (call.request key).body
      = Utf8.encode (Json.object [(call.route.fieldName, .string text)]).compact := by
    simp [Call.request, Call.bodyText, given]
  have reads : Json.Tree.text (Json.string text).toTree = .ok text := rfl
  rw [Request.field, isJson_request given, if_neg (Nat.not_lt.mpr fits), body,
    Json.field_record reads]
  rfl

/-- Past the key and the route it is the field that decides. -/
theorem respond_of_admitted {text : String} (given : call.field? = some text)
    (admitted : server.isAdmitted (call.request key) = true) (store : Store) :
    server.respond store (call.request key) =
      match (call.request key).field call.route.fieldName with
      | .ok field => server.call store call.route field
      | .error status => ⟨.empty status, [], store⟩ := by
  have methods : ∀ route : Route, route.method ≠ "HEAD" := by
    intro route
    cases route <;> decide +kernel
  have whole : (call.request key).method ≠ "HEAD" := methods call.route
  have accepted : call.route.accepts (call.request key).method = true := by
    simp [Route.accepts, Call.request]
  rw [Server.respond, if_pos admitted, Server.dispatch, route_request]
  simp only [accepted, Bool.not_true, Bool.false_eq_true, if_false, whole]
  cases call with
  | health => cases given
  | _ => rfl

theorem respond_of_fits {text : String} (given : call.field? = some text)
    (admitted : server.isAdmitted (call.request key) = true)
    (fits : (call.request key).body.length ≤ Request.bodyLimit) (store : Store) :
    server.respond store (call.request key) = server.call store call.route text := by
  rw [respond_of_admitted given admitted, field_request given fits]

/-- How an error of the engine looks to the caller. -/
def Failure.ofError (error : EngineError) : Failure :=
  .refused error.httpStatus error.kind error.message

namespace Reply

theorem read_ofError (error : EngineError) (call : Call) :
    (ofResponse (.ofError error)).read call
      = .error (.ofError error) := by
  have fields : (ofResponse (.ofError error)).errorFields? = some (error.kind, error.message) := by
    rw [errorFields?, ofResponse, Response.ofError, bodyBytes, Utf8.decodeLossy_encode,
      Json.tree?_compact]
    rfl
  have refused : (ofResponse (.ofError error)).read call
      = .error (ofResponse (.ofError error)).refusal := by
    cases error <;> rfl
  rw [refused, refusal, fields]
  rfl

theorem readAs_ok {α : Type} {read : Json.Tree → Except Json.Fault α} {name : String}
    {value : Json} {result : α} (reads : read value.toTree = .ok result) :
    (ofResponse (.ok [(name, value)])).readAs read name = .ok result := by
  rw [readAs, ofResponse, Response.ok, bodyBytes, Json.field_record reads]

theorem value_ok {members : List (String × Json)}
    (wellFormed : (Json.object members).WellFormed)
    (numbers : (Json.object members).NumbersReadBack)
    (shallow : (Json.object members).depth ≤ Json.nestingLimit) :
    (ofResponse (.ok members)).value = .ok (.object members) := by
  rw [value, ofResponse, Response.ok, bodyBytes, Json.ofBytes_compact]
  simp only [Json.Document.tree?, if_true, Option.bind_some,
    Json.toJson?_toTree wellFormed numbers, if_pos shallow]

theorem read_ofResult {α : Type} {members : α → List (String × Json)} {answer : α → Answer}
    (answers : ∀ value, (ofResponse (.ok (members value))).answer call = .ok (answer value))
    (result : Except EngineError α) :
    (ofResponse (.ofResult members result)).read call
      = (result.map answer).mapError Failure.ofError := by
  cases result with
  | error error => exact read_ofError error call
  | ok value => exact answers value

theorem flag_ok (name : String) (holds : Bool) :
    (ofResponse (.ok [(name, .boolean holds)])).readAs Json.Tree.flag name = .ok holds :=
  readAs_ok rfl

theorem text_ok (name text : String) :
    (ofResponse (.ok [(name, .string text)])).readAs Json.Tree.text name = .ok text :=
  readAs_ok rfl

theorem done_ok : (ofResponse (.ok [])).value = .ok (.object []) :=
  value_ok ⟨List.nodup_nil, trivial⟩ trivial (by decide)

theorem health_ok :
    (ofResponse .health).value
      = .ok (.object [("status", .string "ok"), ("version", .string version)]) :=
  value_ok ⟨by decide, trivial, trivial, trivial⟩ ⟨trivial, trivial, trivial⟩ (by decide)

end Reply

/-- What becomes of a call to the engine. -/
structure Outcome where
  result : Except EngineError Answer
  store : Store
  /-- What is then written to the ordered area. -/
  toWrite : List Job

/-- The call as it is made to the engine itself, which a check of health does not reach. -/
def Call.direct (call : Call) (engine : Engine) (store : Store) : Outcome :=
  match call with
  | .health =>
      ⟨.ok (.value (.object [("status", .string "ok"), ("version", .string version)])), store, []⟩
  | .canCompute descriptor => ⟨(engine.canCompute descriptor).map .flag, store, []⟩
  | .compute descriptor =>
      let computation := engine.compute store descriptor
      ⟨computation.result.map fun _ => .done, computation.store,
        computation.result.toOption.getD []⟩
  | .getScalar guid => ⟨(Engine.scalarText store guid).map .text, store, []⟩
  | .hasInMemory guid => ⟨.ok (.flag (store.contains guid)), store, []⟩
  | .hasOnDisk guid => ⟨(store.isOnDisk guid).map .flag, store, []⟩
  | .readFromDisk guid =>
      ⟨(store.promote guid).map fun _ => .done, (store.promote guid).toOption.getD store, []⟩

theorem read_call {text : String} (given : call.field? = some text) (server : Server)
    (store : Store) :
    (Reply.ofResponse (server.call store call.route text).response).read call
      = (call.direct server.engine store).result.mapError Failure.ofError := by
  cases call with
  | health => cases given
  | canCompute descriptor =>
      cases given
      refine Reply.read_ofResult (fun holds => ?_) _
      exact congrArg (Except.map Answer.flag) (Reply.flag_ok _ holds)
  | compute descriptor =>
      cases given
      simp only [Call.route, Server.call, Server.compute, Call.direct]
      cases (server.engine.compute store text).result with
      | error error => exact Reply.read_ofError error _
      | ok list => exact congrArg (Except.map fun _ => Answer.done) Reply.done_ok
  | getScalar guid =>
      cases given
      refine Reply.read_ofResult (fun text => ?_) _
      exact congrArg (Except.map Answer.text) (Reply.text_ok _ text)
  | hasInMemory guid =>
      cases given
      exact congrArg (Except.map Answer.flag) (Reply.flag_ok _ (store.contains guid))
  | hasOnDisk guid =>
      cases given
      refine Reply.read_ofResult (fun holds => ?_) _
      exact congrArg (Except.map Answer.flag) (Reply.flag_ok _ holds)
  | readFromDisk guid =>
      cases given
      simp only [Call.route, Server.call, Server.readFromDisk, Call.direct]
      cases store.promote guid with
      | error error => exact Reply.read_ofError error _
      | ok changed => exact congrArg (Except.map fun _ => Answer.done) Reply.done_ok

/-- What a call leaves is what the engine leaves, and what is to be written has been. -/
theorem store_call {text : String} (given : call.field? = some text) (server : Server)
    (store : Store) :
    (server.call store call.route text).store
      = (call.direct server.engine store).store.persistAll
          (call.direct server.engine store).toWrite := by
  cases call with
  | health => cases given
  | compute descriptor =>
      cases given
      simp only [Call.route, Server.call, Server.compute, Call.direct]
      cases (server.engine.compute store text).result <;> rfl
  | readFromDisk guid =>
      cases given
      simp only [Call.route, Server.call, Server.readFromDisk, Call.direct]
      cases store.promote guid <;> rfl
  | canCompute _ | getScalar _ | hasInMemory _ | hasOnDisk _ => rfl

theorem respond_health (noKey : server.key = none) (store : Store) :
    server.respond store (Call.health.request key) = ⟨.health, [], store⟩ := by
  have routed : Route.ofPath? (Call.health.request key).path = some .health :=
    route_request .health key
  rw [Server.respond, if_pos (by rw [Server.isAdmitted, noKey]), Server.dispatch, routed]
  rfl

/-- Over HTTP a call has the outcome that it has without. -/
theorem respond_eq_direct (server : Server) (store : Store) (call : Call)
    (key : Option AccessKey) (noKey : server.key = none)
    (fits : (call.request key).body.length ≤ Request.bodyLimit) :
    let exchange := server.respond store (call.request key)
    let outcome := call.direct server.engine store
    (∀ answer, outcome.result = .ok answer →
        (Reply.ofResponse exchange.response).read call = .ok answer) ∧
      (∀ error, outcome.result = .error error →
        (Reply.ofResponse exchange.response).read call
            = .error (.refused error.httpStatus error.kind error.message) ∧
          error.kind ≠ "Http") ∧
      exchange.store.memory = outcome.store.memory ∧
      exchange.store = outcome.store.persistAll outcome.toWrite := by
  intro exchange outcome
  have came : (Reply.ofResponse exchange.response).read call
        = outcome.result.mapError Failure.ofError ∧
      exchange.store = outcome.store.persistAll outcome.toWrite := by
    cases given : call.field? with
    | none =>
        have isHealth : call = .health := by
          cases call <;> first | rfl | cases given
        subst isHealth
        simp only [exchange, outcome, respond_health noKey store]
        exact ⟨congrArg (Except.map Answer.value) Reply.health_ok, rfl⟩
    | some text =>
        have admitted : server.isAdmitted (call.request key) = true := by
          rw [Server.isAdmitted, noKey]
        simp only [exchange, outcome, respond_of_fits given admitted fits]
        exact ⟨read_call given server store, store_call given server store⟩
  obtain ⟨read, left⟩ := came
  obtain ⟨files, written⟩ := outcome.store.persistAll_eq_files outcome.toWrite
  refine ⟨fun answer answers => ?_, fun error fails => ⟨?_, ?_⟩, ?_, left⟩
  · rw [read, answers]
    rfl
  · rw [read, fails]
    rfl
  · cases error <;> simp [EngineError.kind]
  · rw [left, written]

/-- A guid with quotes, a backslash, a control character, and characters of two and four bytes. -/
def hardGuid : Guid := ⟨"\"é\\\x01/😀\""⟩

theorem respond_eq_direct_hardGuid :
    Server.standardServer.key = none ∧
      ((Call.hasOnDisk hardGuid).request (some ⟨"key"⟩)).body.length ≤ Request.bodyLimit ∧
      (Reply.ofResponse (Server.standardServer.respond .overTwoAreas
          ((Call.hasOnDisk hardGuid).request (some ⟨"key"⟩))).response).read (.hasOnDisk hardGuid)
        = .error (.refused 400 "InvalidGuid" ("Invalid guid: " ++ Quoted.quote hardGuid.text)) := by
  have fits : ((Call.hasOnDisk hardGuid).request (some ⟨"key"⟩)).body.length
      ≤ Request.bodyLimit := by
    decide +kernel
  have fails : ((Call.hasOnDisk hardGuid).direct Server.standardServer.engine
      .overTwoAreas).result = .error (.invalidGuid hardGuid) := by
    decide +kernel
  obtain ⟨_, refused, _⟩ := respond_eq_direct Server.standardServer .overTwoAreas
    (.hasOnDisk hardGuid) (some ⟨"key"⟩) rfl fits
  exact ⟨rfl, fits, (refused _ fails).1⟩

end GraphEngine.Client
