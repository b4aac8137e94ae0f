import GraphEngine.Http.Server
import GraphEngine.Proofs.Engine.Compute
import GraphEngine.Proofs.Registry
import GraphEngine.Proofs.Store.Refinement
import GraphEngine.Proofs.Store.Sound

/-!
What runs of requests make of a store.

A request changes the store by a computation or by reading an entity from the ordered area, and by
nothing else. Both keep a sound store sound, and only a computation writes, so that whatever the
ordered area shows has been handed out by one of the requests.
-/
namespace GraphEngine.Http.Server

variable {server : Server} {store start : Store} {request : Request} {route : Route}
  {stored : Memory}

/-- The request gets through to the call, with the field that the call needs. -/
structure Asks (server : Server) (request : Request) (route : Route) (field : String) : Prop where
  admitted : server.isAdmitted request = true
  routed : Route.ofPath? request.path = some route
  accepted : route.accepts request.method = true
  given : request.field route.fieldName = .ok field

theorem serve_of_asks {field : String} (asks : server.Asks request route field)
    (notHealth : route ≠ .health) (store : Store) :
    server.serve store route request = server.call store route field := by
  cases route with
  | health => exact absurd rfl notHealth
  | _ => simp only [serve, asks.given]

theorem respond_of_asks {field : String} (asks : server.Asks request route field)
    (notHealth : route ≠ .health) (store : Store) :
    (server.respond store request).store = (server.call store route field).store := by
  rw [respond, if_pos asks.admitted, dispatch, asks.routed]
  simp only [asks.accepted, Bool.not_true, Bool.false_eq_true, if_false]
  split <;> rw [serve_of_asks asks notHealth]

/-- The stores that a request may leave. -/
inductive Effect (server : Server) (store : Store) (request : Request) : Store → Prop where
  | none : Effect server store request store
  | computed {text : String} (asks : server.Asks request .compute text) :
      Effect server store request (server.compute store text).store
  | read {guid : Guid} {entity : Entity} (asks : server.Asks request .readFromDisk guid.text)
      (loaded : store.load guid none = .ok entity) :
      Effect server store request (store.put guid entity)

theorem readFromDisk_of_error {guid : Guid} {error : EngineError}
    (h : store.load guid none = .error error) : (readFromDisk store guid).store = store := by
  simp only [readFromDisk, Store.promote, h, bind, Except.bind]

theorem readFromDisk_of_ok {guid : Guid} {entity : Entity}
    (h : store.load guid none = .ok entity) :
    (readFromDisk store guid).store = store.put guid entity := by
  simp only [readFromDisk, Store.promote, h, bind, Except.bind, pure, Except.pure]

theorem effect_call {field : String} (asks : server.Asks request route field) :
    server.Effect store request (server.call store route field).store := by
  cases route with
  | compute => exact .computed asks
  | readFromDisk =>
      change server.Effect store request (readFromDisk store ⟨field⟩).store
      cases loaded : store.load ⟨field⟩ none with
      | error error =>
          rw [readFromDisk_of_error loaded]
          exact .none
      | ok entity =>
          rw [readFromDisk_of_ok loaded]
          exact .read asks loaded
  | health | canCompute | getScalar | hasInMemory | hasOnDisk => exact .none

theorem effect_serve (admitted : server.isAdmitted request = true)
    (routed : Route.ofPath? request.path = some route)
    (accepted : route.accepts request.method = true) :
    server.Effect store request (server.serve store route request).store := by
  unfold serve
  split
  · exact .none
  · split
    · next given => exact effect_call ⟨admitted, routed, accepted, given⟩
    · exact .none

theorem effect_respond (server : Server) (store : Store) (request : Request) :
    server.Effect store request (server.respond store request).store := by
  unfold respond
  split
  · next admitted =>
      unfold dispatch
      split
      · exact .none
      · next route routed =>
          split
          · exact .none
          · next accepted =>
              have effect : server.Effect store request (server.serve store route request).store :=
                effect_serve admitted routed (by simpa using accepted)
              dsimp only
              split <;> exact effect
  · exact .none

theorem compute_of_ok {text : String} {persisted : List (Guid × Entity)}
    (h : (server.engine.compute store text).result = .ok persisted) :
    (server.compute store text).store
      = (server.engine.compute store text).store.persistAll persisted := by
  simp only [compute, h]

theorem compute_of_error {text : String} {error : EngineError}
    (h : (server.engine.compute store text).result = .error error) :
    (server.compute store text).store = (server.engine.compute store text).store := by
  simp only [compute, h]

theorem contains_putAll {outputs : List (Guid × Entity)} {guid : Guid}
    (resident : store.contains guid = true) : (store.putAll outputs).contains guid = true := by
  rw [Store.contains, Store.putAll, Std.ExtTreeMap.contains_insertMany_list, Bool.or_eq_true]
  exact .inl resident

/-- What one request leaves, of which some may be newly written. -/
structure Advances (server : Server) (store : Store) (request : Request) (stored : Memory)
    (next : Store) (written : List (Guid × Entity)) : Prop where
  ordered : next.ordered = store.ordered
  staging : next.staging = store.staging
  sound : next.Sound (stored.insertMany written)
  resident : ∀ {guid : Guid}, store.contains guid = true → next.contains guid = true
  origin : ∀ output ∈ written, ∃ text, server.Asks request .compute text ∧
    server.engine.Yields store text output.1 output.2

theorem Advances.refl (sound : store.Sound stored) :
    Advances server store request stored store [] :=
  ⟨rfl, rfl, sound, id, by simp⟩

theorem advances_compute {text : String} (sound : store.Sound stored)
    (apart : store.ordered.Apart store.staging)
    (respects : server.engine.helper.Respects store.ordered)
    (asks : server.Asks request .compute text) :
    ∃ written, Advances server store request stored (server.compute store text).store written := by
  have spared := sound.spared (Engine.spared_compute text apart respects sound.shows.isOpen)
  cases computed : (server.engine.compute store text).result with
  | error error =>
      refine ⟨[], ?_⟩
      rw [compute_of_error computed, Engine.store_of_error computed]
      exact ⟨rfl, rfl, spared, id, by simp⟩
  | ok persisted =>
      obtain ⟨outputs, valid, yields, merged, rfl⟩ := Engine.store_of_compute computed
      obtain ⟨files, persists, sound⟩ := spared.merge valid
      refine ⟨outputs.filter fun output => ! output.2.isScalar, ?_⟩
      rw [compute_of_ok computed, merged, persists]
      exact ⟨rfl, rfl, sound, contains_putAll, fun output listed =>
        ⟨text, asks, yields output listed⟩⟩

theorem advances_respond (sound : store.Sound stored) (apart : store.ordered.Apart store.staging)
    (respects : server.engine.helper.Respects store.ordered) (request : Request) :
    ∃ written,
      Advances server store request stored (server.respond store request).store written := by
  have effect := server.effect_respond store request
  generalize (server.respond store request).store = next at effect ⊢
  cases effect with
  | none => exact ⟨[], .refl sound⟩
  | computed asks => exact advances_compute sound apart respects asks
  | read asks loaded =>
      refine ⟨[], rfl, rfl, sound.promote loaded, fun resident => ?_, by simp⟩
      rw [Store.contains, Store.put, Std.ExtTreeMap.contains_insert, Bool.or_eq_true]
      exact .inr resident

/-- The store once all the requests have been answered. -/
def after (server : Server) (store : Store) (requests : List Request) : Store :=
  requests.foldl (fun store request => (server.respond store request).store) store

@[simp] theorem after_nil (server : Server) (store : Store) : server.after store [] = store := rfl

theorem after_append (server : Server) (store : Store) (first later : List Request) :
    server.after store (first ++ later) = server.after (server.after store first) later :=
  List.foldl_append

theorem after_concat (server : Server) (store : Store) (requests : List Request)
    (request : Request) :
    server.after store (requests ++ [request])
      = (server.respond (server.after store requests) request).store := by
  rw [after_append]
  rfl

/-- The entity came out, under the guid, of a computation that one of the requests asked for. -/
def HandsOut (server : Server) (start : Store) (requests : List Request) (guid : Guid)
    (entity : Entity) : Prop :=
  ∃ before request later text, requests = before ++ request :: later ∧
    server.Asks request .compute text ∧
    server.engine.Yields (server.after start before) text guid entity

theorem HandsOut.append {requests : List Request} {guid : Guid} {entity : Entity}
    (h : server.HandsOut start requests guid entity) (more : List Request) :
    server.HandsOut start (requests ++ more) guid entity := by
  obtain ⟨before, request, later, text, rfl, asks, yields⟩ := h
  exact ⟨before, request, later ++ more, text, by simp, asks, yields⟩

/-- What every run comes to. -/
structure Reached (server : Server) (start : Store) (requests : List Request) (stored : Memory) :
    Prop where
  ordered : (server.after start requests).ordered = start.ordered
  staging : (server.after start requests).staging = start.staging
  sound : (server.after start requests).Sound stored
  origin : ∀ {guid : Guid} {entity : Entity}, stored[guid]? = some entity →
    server.HandsOut start requests guid entity

theorem reached_concat {requests : List Request} (apart : start.ordered.Apart start.staging)
    (respects : server.engine.helper.Respects start.ordered)
    (reached : server.Reached start requests stored) (request : Request) :
    ∃ written, Advances server (server.after start requests) request stored
        (server.after start (requests ++ [request])) written ∧
      server.Reached start (requests ++ [request]) (stored.insertMany written) := by
  obtain ⟨written, advances⟩ := advances_respond reached.sound
    (by rw [reached.ordered, reached.staging]; exact apart)
    (by rw [reached.ordered]; exact respects) request
  rw [← after_concat] at advances
  refine ⟨written, advances, advances.ordered.trans reached.ordered,
    advances.staging.trans reached.staging, advances.sound, ?_⟩
  exact Maps.all_insertMany (P := server.HandsOut start (requests ++ [request]))
    (fun output listed => by
      obtain ⟨text, asks, yields⟩ := advances.origin output listed
      exact ⟨requests, request, [], text, rfl, asks, yields⟩)
    (fun held => (reached.origin held).append [request])

theorem exists_reached (isEmpty : start.ordered.IsEmpty start.files) (noMemory : start.memory = ∅)
    (apart : start.ordered.Apart start.staging)
    (respects : server.engine.helper.Respects start.ordered) (requests : List Request) :
    ∃ stored, server.Reached start requests stored := by
  -- What the area shows grows with each request, so the run is taken apart at its end.
  induction requests using List.reverseRecOn with
  | nil => exact ⟨∅, rfl, rfl, .of_isEmpty isEmpty noMemory, by simp⟩
  | append_singleton requests request ih =>
      obtain ⟨stored, reached⟩ := ih
      obtain ⟨written, _, next⟩ := reached_concat apart respects reached request
      exact ⟨_, next⟩

theorem contains_after {requests later : List Request} {guid : Guid}
    (apart : start.ordered.Apart start.staging)
    (respects : server.engine.helper.Respects start.ordered)
    (reached : server.Reached start requests stored)
    (resident : (server.after start requests).contains guid = true) :
    (server.after start (requests ++ later)).contains guid = true := by
  induction later generalizing requests stored with
  | nil => rwa [List.append_nil]
  | cons request rest ih =>
      obtain ⟨written, advances, next⟩ := reached_concat apart respects reached request
      rw [List.append_cons]
      exact ih next (advances.resident resident)

/-- Every run, whatever is asked for, leaves valid entities under safe guids in memory, where they
stay, and in the ordered area whole data of entities that the run has handed out. -/
theorem invariant_of_requests (server : Server) (start : Store) (ordered staging : String)
    (files opened : Files) (requests : List Request)
    (opens : Store.openAreas ordered staging files = (.ok start, opened))
    (isEmpty : start.ordered.IsEmpty opened) (apart : start.ordered.Apart start.staging)
    (respects : server.engine.helper.Respects start.ordered) :
    (∀ guid entity, (server.after start requests).get? guid = some entity →
      guid.isSafe = true ∧ entity.validate = .ok ()) ∧
    (∀ guid later, (server.after start requests).contains guid = true →
      (server.after start (requests ++ later)).contains guid = true) ∧
    (∀ directory content, start.ordered.path <+: directory →
      (server.after start requests).files.node? (directory ++ [Area.dataName])
        = some (.file content) →
      ∃ guid entity, directory = start.ordered.folder guid ∧
        (server.after start requests).files.isFile (directory ++ [Area.markerName]) = true ∧
        content = .ofBytes entity.encode ∧ entity.validate = .ok () ∧
        entity.isScalar = false ∧ server.HandsOut start requests guid entity) := by
  obtain ⟨noMemory, rfl⟩ := Store.openAreas_ok opens
  obtain ⟨stored, reached⟩ := exists_reached isEmpty noMemory apart respects requests
  have shows := reached.sound.shows
  rw [reached.ordered] at shows
  refine ⟨fun _ _ => reached.sound.resident, fun _ _ => contains_after apart respects reached,
    fun directory content inside data => ?_⟩
  obtain ⟨guid, entity, found, rfl, written⟩ := shows.stored_of_data inside data
  obtain ⟨_, valid, notScalar⟩ := reached.sound.writable found
  have marked : (server.after start requests).files.isFile
      (start.ordered.folder guid ++ [Area.markerName]) = true := by
    rw [Files.isFile, shows.inFolder, Area.image, found]
    rfl
  exact ⟨guid, entity, rfl, marked, written, valid, notScalar, reached.origin found⟩

def askFor (text : String) : Request where
  method := "POST"
  target := "/compute"
  headers := [("Content-Type", "application/json")]
  body := Utf8.encode (Json.object [("operation", .string text)]).compact

def standardRegistry : Registry := (Registry.standard []).toOption.getD .empty

theorem standard_eq_ok : Registry.standard [] = .ok standardRegistry :=
  Registry.standard_eq_ok []

def standardServer : Server where
  engine := ⟨standardRegistry, fun files _ => (.finished 0 [] [], files)⟩
  key := none

theorem respects_standardServer (area : Area) : standardServer.engine.helper.Respects area :=
  fun _ _ => .refl _

theorem apart_overTwoAreas : Store.overTwoAreas.ordered.Apart Store.overTwoAreas.staging :=
  ⟨by decide, by decide⟩

def sharedGuid : String :=
  "\x7b\"Operation\":\x7b\"Class\":"
    ++ "\"com.lynxanalytics.biggraph.graph_operations.ExampleGraph\"\x7d,"
    ++ "\"Outputs\":\x7b\"edges\":\"g\",\"greeting\":\"g\",\"vertices\":\"v\"\x7d\x7d"

theorem asks_sharedGuid : standardServer.Asks (askFor sharedGuid) .compute sharedGuid :=
  ⟨rfl, by decide +kernel, by decide, by decide +kernel⟩

def afterSharedGuid : Store := standardServer.after .overTwoAreas [askFor sharedGuid]

theorem afterSharedGuid_eq :
    afterSharedGuid = (standardServer.compute .overTwoAreas sharedGuid).store :=
  respond_of_asks asks_sharedGuid (by decide) .overTwoAreas

def people : Entity := .vertexSet ⟨[0, 1, 2, 3]⟩

def affections : Entity := .edgeBundle ⟨[0, 1, 2, 2], [1, 0, 0, 1], [0, 1, 2, 3]⟩

def greeting : Entity := .scalar (.string "Hello world! 😀 ")

theorem seen_sharedGuid :
    afterSharedGuid.get? ⟨"g"⟩ = some greeting ∧ afterSharedGuid.get? ⟨"v"⟩ = some people ∧
      afterSharedGuid.files.node? (Store.overTwoAreas.ordered.folder ⟨"g"⟩ ++ [Area.dataName])
        = some (.file (.ofBytes affections.encode)) := by
  rw [afterSharedGuid_eq]
  decide +kernel

theorem invariant_sharedGuid :
    Store.overTwoAreas.ordered.Apart Store.overTwoAreas.staging ∧
      standardServer.engine.helper.Respects Store.overTwoAreas.ordered ∧
      greeting.validate = .ok () ∧
      ∃ guid entity, Store.overTwoAreas.ordered.folder ⟨"g"⟩
          = Store.overTwoAreas.ordered.folder guid ∧
        Content.ofBytes affections.encode = .ofBytes entity.encode ∧
        standardServer.HandsOut .overTwoAreas [askFor sharedGuid] guid entity := by
  obtain ⟨greets, _, data⟩ := seen_sharedGuid
  obtain ⟨resident, _, stored⟩ :=
    invariant_of_requests standardServer .overTwoAreas "ordered" "staging" Store.twoAreas
      Store.twoAreas [askFor sharedGuid] Store.openAreas_twoAreas Store.isEmpty_twoAreas
      apart_overTwoAreas (respects_standardServer _)
  obtain ⟨guid, entity, same, _, written, _, _, handsOut⟩ :=
    stored _ _ (List.prefix_append _ _) data
  exact ⟨apart_overTwoAreas, respects_standardServer _, (resident _ _ greets).2, guid, entity,
    same, written, handsOut⟩

end GraphEngine.Http.Server
