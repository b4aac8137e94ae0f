import GraphEngine.Client.Basic
import GraphEngine.Http.Server
import GraphEngine.Proofs.Engine.Foretelling
import GraphEngine.Proofs.Text.Utf8

/-!
Who gets past the key.

A request is let through for the key and for nothing that only resembles it, and what is turned away
has done nothing. Behind the key everything is as on a server without one.
-/
namespace GraphEngine.Http

namespace AccessKey

variable {key : AccessKey} {request : Request}

theorem length_filled {size : Nat} {bytes : List UInt8} (fits : bytes.length ≤ size) :
    (filled size bytes).length = size := by
  rw [filled, List.length_append, List.length_replicate]
  omega

theorem agree_iff {left right : List UInt8} (sameSize : left.length = right.length) :
    agree left right = true ↔ left = right := by
  have compared : ∀ (pairs : List (UInt8 × UInt8)) (same : Bool),
      pairs.foldl (fun same pair => (pair.1 = pair.2) && same) same = true ↔
        same = true ∧ ∀ pair ∈ pairs, pair.1 = pair.2 := by
    intro pairs
    induction pairs with
    | nil => simp
    | cons pair rest ih =>
        intro same
        rw [List.foldl_cons, ih, Bool.and_eq_true, decide_eq_true_eq, List.forall_mem_cons]
        tauto
  calc
    agree left right = true ↔ true = true ∧ ∀ pair ∈ left.zip right, pair.1 = pair.2 :=
      compared _ _
    _ ↔ left = right := by
      rw [← List.forall₂_eq_eq_eq, List.forall₂_iff_zip]
      simp [sameSize]

/-- The zeros behind the shorter text do not make it the longer one. -/
theorem accepts_iff {provided : String} : key.accepts provided = true ↔ provided = key.text := by
  unfold accepts
  dsimp only
  rw [Bool.and_eq_true, decide_eq_true_eq, agree_iff (by
    rw [length_filled (Nat.le_max_left _ _), length_filled (Nat.le_max_right _ _)])]
  constructor
  · rintro ⟨same, sameSize⟩
    have bytes : Utf8.encode provided = Utf8.encode key.text :=
      (List.append_inj same sameSize).1
    have decoded := Utf8.decode?_encode provided
    rw [bytes, Utf8.decode?_encode, Option.some.injEq] at decoded
    exact decoded.symm
  · rintro rfl
    exact ⟨rfl, rfl⟩

/-- Without the scheme a text is understood as it stands, unless it begins like the scheme. -/
theorem provided_eq_iff {value text : String} :
    provided value = text ↔
      value = scheme ++ text ∨ (value = text ∧ Affix.after? scheme text = none) := by
  unfold provided
  cases after : Affix.after? scheme value with
  | some rest =>
      have split := Affix.after?_eq_some_iff.mp after
      rw [Option.getD_some, split, String.append_right_inj]
      constructor
      · exact .inl
      · rintro (same | ⟨rfl, absent⟩)
        · exact same
        · rw [← split, after] at absent
          cases absent
  | none =>
      rw [Option.getD_none]
      constructor
      · rintro rfl
        exact .inr ⟨rfl, after⟩
      · rintro (begins | ⟨same, _⟩)
        · rw [Affix.after?_eq_some_iff.mpr begins] at after
          cases after
        · exact same

end AccessKey

namespace Request

/-- The value of the first header of a name, whatever characters are in it. -/
def first? (request : Request) (name : String) : Option String :=
  (request.headers.find? fun (given, _) => given.toLower = name).map Prod.snd

theorem path_of_target {left right : Request} (h : left.target = right.target) :
    left.path = right.path := by
  rw [path, path, h]

theorem header?_eq_some_iff {request : Request} {name value : String} :
    request.header? name = some value ↔
      request.first? name = some value ∧ value.toList.all isVisible = true :=
  Option.filter_eq_some_iff

end Request

namespace AccessKey

variable {key : AccessKey} {request : Request}

theorem admits_iff (visible : key.text.toList.all Request.isVisible = true) :
    key.admits request = true ↔
      request.first? "authorization" = some (scheme ++ key.text) ∨
      (request.first? "authorization" = some key.text ∧ Affix.after? scheme key.text = none) := by
  have whole : (scheme ++ key.text).toList.all Request.isVisible = true := by
    have own : scheme.toList.all Request.isVisible = true := by decide +kernel
    rw [String.toList_append, List.all_append, own, visible]
    rfl
  have admitted : key.admits request = true ↔
      ∃ value, request.header? "authorization" = some value ∧ provided value = key.text := by
    unfold admits
    cases request.header? "authorization" with
    | none => simp
    | some value => simp [accepts_iff]
  rw [admitted]
  constructor
  · rintro ⟨value, header, same⟩
    have first := (Request.header?_eq_some_iff.mp header).1
    rcases provided_eq_iff.mp same with rfl | ⟨rfl, bare⟩
    · exact .inl first
    · exact .inr ⟨first, bare⟩
  · rintro (first | ⟨first, bare⟩)
    · exact ⟨_, Request.header?_eq_some_iff.mpr ⟨first, whole⟩, provided_eq_iff.mpr (.inl rfl)⟩
    · exact ⟨_, Request.header?_eq_some_iff.mpr ⟨first, visible⟩,
        provided_eq_iff.mpr (.inr ⟨rfl, bare⟩)⟩

theorem ofText?_eq_some {text : String} (given : text ≠ "") : ofText? text = some ⟨text⟩ :=
  if_neg given

/-- The key as a client sends it. -/
theorem first?_request (key : AccessKey) (call : Client.Call) :
    (call.request (some key)).first? "authorization" = some (scheme ++ key.text) := by
  have own : "authorization".toLower = "authorization" := by decide +kernel
  simp [Request.first?, Client.Call.request, Client.Call.keyHeaders, own]

end AccessKey

namespace Server

variable {server : Server} {store : Store} {request : Request} {route : Route}

/-- The store by then, and the jobs that have gone into the queue for the pool. -/
structure Effects where
  store : Store
  queued : List Job

/-- The call to which the request gets through, with its field. -/
def reached? (server : Server) (request : Request) : Option (Route × String) :=
  if server.isAdmitted request then
    match Route.ofPath? request.path with
    | some route =>
        if route.accepts request.method then
          match request.field route.fieldName with
          | .ok field => some (route, field)
          | .error _ => none
        else none
    | none => none
  else none

def effectsOfCall (engine : Engine) (store : Store) : Route → String → Effects
  | .compute, text =>
      let computation := engine.compute store text
      ⟨computation.store, computation.result.toOption.getD []⟩
  | .readFromDisk, guid => ⟨(store.promote ⟨guid⟩).toOption.getD store, []⟩
  | _, _ => ⟨store, []⟩

def effects (server : Server) (store : Store) (request : Request) : Effects :=
  match server.reached? request with
  | some (route, field) => effectsOfCall server.engine store route field
  | none => ⟨store, []⟩

theorem store_call (server : Server) (store : Store) (route : Route) (field : String) :
    (server.call store route field).store
      = (effectsOfCall server.engine store route field).store.persistAll
          (effectsOfCall server.engine store route field).queued := by
  cases route with
  | compute =>
      simp only [call, compute, effectsOfCall]
      cases (server.engine.compute store field).result <;> rfl
  | readFromDisk =>
      simp only [call, readFromDisk, effectsOfCall]
      cases store.promote ⟨field⟩ <;> rfl
  | health | canCompute | getScalar | hasInMemory | hasOnDisk => rfl

theorem store_serve (server : Server) (store : Store) (route : Route) (request : Request) :
    (server.serve store route request).store
      = match request.field route.fieldName with
        | .ok field => (server.call store route field).store
        | .error _ => store := by
  cases route with
  | health =>
      cases request.field (Route.fieldName .health) <;> rfl
  | _ =>
      simp only [serve]
      cases request.field _ <;> rfl

/-- Once the pool has done its jobs, the store is the one that the exchange leaves. -/
theorem store_respond (server : Server) (store : Store) (request : Request) :
    (server.respond store request).store
      = (server.effects store request).store.persistAll
          (server.effects store request).queued := by
  unfold respond effects reached?
  cases server.isAdmitted request with
  | false => rfl
  | true =>
      simp only [if_true, dispatch]
      cases Route.ofPath? request.path with
      | none => rfl
      | some route =>
          have served := server.store_serve store route request
          have left : (if request.method = "HEAD" then
              { server.serve store route request with
                response := (server.serve store route request).response.withoutBody }
              else server.serve store route request).store
                = (server.serve store route request).store := by
            split <;> rfl
          dsimp only
          cases route.accepts request.method with
          | false => rfl
          | true =>
              simp only [Bool.not_true, Bool.false_eq_true, if_false, if_true]
              rw [left, served]
              cases request.field route.fieldName with
              | error status => rfl
              | ok field => exact server.store_call store route field

/-- Nothing comes of the request but its refusal. -/
structure Refuses (server : Server) (store : Store) (request : Request) : Prop where
  status : (server.respond store request).response.status = 401
  unremarked : (server.respond store request).remarks = []
  unchanged : (server.respond store request).store = store
  idle : server.effects store request = ⟨store, []⟩

/-- Both servers answer the request alike, and it has the same effects on both. -/
structure Alike (server other : Server) (store : Store) (request : Request) : Prop where
  exchange : server.respond store request = other.respond store request
  effects : server.effects store request = other.effects store request

theorem refuses_of_not_admitted (h : server.isAdmitted request = false) :
    server.Refuses store request := by
  have refused : server.respond store request = ⟨refuse request, [], store⟩ := by
    rw [respond, h]
    rfl
  refine ⟨?_, ?_, ?_, ?_⟩
  · rw [refused]
    unfold refuse
    split <;> rfl
  · rw [refused]
  · rw [refused]
  · rw [effects, reached?, h]
    rfl

theorem alike_of_admitted {engine : Engine} {key other : Option AccessKey}
    (h : isAdmitted ⟨engine, key⟩ request = true) (h' : isAdmitted ⟨engine, other⟩ request = true) :
    Alike ⟨engine, key⟩ ⟨engine, other⟩ store request := by
  refine ⟨?_, ?_⟩
  · rw [respond, respond, if_pos h, if_pos h']
    rfl
  · rw [effects, effects, reached?, reached?, h, h']

theorem isAdmitted_of_key {engine : Engine} {key : AccessKey}
    (routed : Route.ofPath? request.path = some route) (notHealth : route ≠ .health) :
    isAdmitted ⟨engine, some key⟩ request = key.admits request := by
  have elsewhere : request.path ≠ Route.health.path := by
    intro same
    rw [same] at routed
    cases routed
    exact notHealth rfl
  simp [isAdmitted, elsewhere]

/-- A guarded call is open to the key under the scheme, and to the bare key as far as that does not
itself begin like the scheme. Everything else is turned away before anything is done. -/
theorem admission_by_key (engine : Engine) (store : Store) (key : String) (request : Request)
    (route : Route) (someKey : key ≠ "") (visible : key.toList.all Request.isVisible = true)
    (routed : Route.ofPath? request.path = some route) (notHealth : route ≠ .health) :
    let guarded : Server := ⟨engine, AccessKey.ofText? key⟩
    let free : Server := ⟨engine, none⟩
    let header := request.first? "authorization"
    (header ≠ some key → header ≠ some (AccessKey.scheme ++ key) →
      guarded.Refuses store request) ∧
    (header = some (AccessKey.scheme ++ key) → guarded.Alike free store request) ∧
    (header = some key → (∀ rest, key ≠ AccessKey.scheme ++ rest) →
      guarded.Alike free store request) ∧
    (header = some key → ∀ rest, key = AccessKey.scheme ++ rest → guarded.Refuses store request) ∧
    (∀ call : Client.Call, (call.request (AccessKey.ofText? key)).first? "authorization"
      = some (AccessKey.scheme ++ key)) ∧
    (∀ server : Server, (server.respond store request).store
      = (server.effects store request).store.persistAll
          (server.effects store request).queued) := by
  intro guarded free header
  have gate : guarded.isAdmitted request = AccessKey.admits ⟨key⟩ request := by
    simp only [guarded, AccessKey.ofText?_eq_some someKey]
    exact isAdmitted_of_key routed notHealth
  have admits : guarded.isAdmitted request = true ↔
      header = some (AccessKey.scheme ++ key) ∨
        (header = some key ∧ Affix.after? AccessKey.scheme key = none) := by
    rw [gate]
    exact AccessKey.admits_iff visible
  have lets : guarded.isAdmitted request = true → guarded.Alike free store request :=
    fun admitted => alike_of_admitted admitted rfl
  have stops : ¬ guarded.isAdmitted request = true → guarded.Refuses store request :=
    fun refused => refuses_of_not_admitted (Bool.eq_false_iff.mpr refused)
  refine ⟨fun notBare notWhole => stops fun admitted => ?_,
    fun whole => lets (admits.mpr (.inl whole)), fun bare plain => lets ?_,
    fun bare rest begins => stops fun admitted => ?_, fun call => ?_,
    fun server => server.store_respond store request⟩
  · rcases admits.mp admitted with whole | ⟨bare, _⟩
    · exact notWhole whole
    · exact notBare bare
  · refine admits.mpr (.inr ⟨bare, ?_⟩)
    refine Option.eq_none_iff_forall_ne_some.mpr fun rest after => ?_
    exact plain rest (Affix.after?_eq_some_iff.mp after)
  · rcases admits.mp admitted with whole | ⟨_, absent⟩
    · -- The key would stand behind a scheme in itself.
      have longer := congrArg String.length (Option.some.inj (bare.symm.trans whole))
      rw [String.length_append] at longer
      exact absurd longer (by simp [AccessKey.scheme])
    · rw [Affix.after?_eq_some_iff.mpr begins] at absent
      cases absent
  · rw [AccessKey.ofText?_eq_some someKey]
    exact AccessKey.first?_request ⟨key⟩ call

/-- A key that begins like the scheme itself. -/
def doubledKey : String := "Bearer 7"

def probeWith (value : String) : Request where
  method := "POST"
  target := "/has_in_sphynx_memory"
  headers := [("Authorization", value), ("authorization", "7")]
  body := []

theorem routed_probeWith (value : String) :
    Route.ofPath? (probeWith value).path = some .hasInMemory := by
  have path : (probeWith value).path = (probeWith "").path := Request.path_of_target rfl
  rw [path]
  decide +kernel

theorem first?_probeWith (value : String) :
    (probeWith value).first? "authorization" = some value := by
  have own : "Authorization".toLower = "authorization" := by decide +kernel
  simp [Request.first?, probeWith, own]

theorem admission_by_doubledKey :
    let guarded : Server := ⟨Engine.withExampleGraph, AccessKey.ofText? doubledKey⟩
    doubledKey ≠ "" ∧ doubledKey.toList.all Request.isVisible = true ∧
      (∀ value, Route.ofPath? (probeWith value).path = some .hasInMemory) ∧
      guarded.Refuses .overTwoAreas (probeWith "Bearer 7") ∧
      guarded.Refuses .overTwoAreas (probeWith "Bearer Bearer 7~") ∧
      guarded.Alike ⟨Engine.withExampleGraph, none⟩ .overTwoAreas (probeWith "Bearer Bearer 7") := by
  have visible : doubledKey.toList.all Request.isVisible = true := by decide +kernel
  have gate := fun value => admission_by_key Engine.withExampleGraph .overTwoAreas doubledKey
    (probeWith value) .hasInMemory (by decide) visible (routed_probeWith value) (by decide)
  refine ⟨by decide, visible, routed_probeWith, ?_, ?_, ?_⟩
  · exact (gate _).2.2.2.1 (first?_probeWith _) "7" (by decide)
  · exact (gate _).1 (by rw [first?_probeWith]; decide) (by rw [first?_probeWith]; decide)
  · exact (gate _).2.1 (by rw [first?_probeWith]; rfl)

end Server
end GraphEngine.Http
