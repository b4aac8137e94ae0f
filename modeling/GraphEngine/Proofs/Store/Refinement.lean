import GraphEngine.Proofs.Area.Image
import GraphEngine.Proofs.Store.Opening

/-!
A store is two maps.

To its callers a store over files looks like a pair of finite maps, one for the memory and one for
the ordered area. Both answer the same requests, and the answers are compared over whole runs.
-/
namespace GraphEngine

namespace Store

/-- What can be asked of a store. -/
inductive Request where
  | put (guid : Guid) (entity : Entity)
  | putAll (entities : List (Guid × Entity))
  | get (guid : Guid)
  | contains (guid : Guid)
  | size
  | persist (guid : Guid) (entity : Entity)
  | isOnDisk (guid : Guid)
  | load (guid : Guid)
  | loadAs (guid : Guid) (kind : Kind)
  | promote (guid : Guid)
  /-- The store is opened once more over its areas. -/
  | reopen

namespace Request

def Answer : Request → Type
  | .put .. | .putAll _ => Unit
  | .get _ => Option Entity
  | .contains _ => Bool
  | .size => Nat
  | .persist .. | .isOnDisk _ => Except EngineError Bool
  | .load _ | .loadAs .. => Except EngineError Entity
  | .promote _ | .reopen => Except EngineError Unit

/-- What is to be persisted can be read back. -/
def Sound : Request → Prop
  | .persist _ entity => entity.validate = .ok () ∧ entity.encode.length ≤ Format.sizeLimit
  | _ => True

end Request

/-- A request together with its answer. -/
abbrev Answered := (request : Request) × request.Answer

def reopen (store : Store) : Except EngineError Unit × Store :=
  match openAreas store.ordered.name store.staging.name store.files with
  | (.ok opened, _) => (.ok (), opened)
  | (.error error, files) => (.error error, { store with files })

def answer (store : Store) : (request : Request) → request.Answer × Store
  | .put guid entity => ((), store.put guid entity)
  | .putAll entities => ((), store.putAll entities)
  | .get guid => (store.get? guid, store)
  | .contains guid => (store.contains guid, store)
  | .size => (store.size, store)
  | .persist guid entity => store.persist guid entity
  | .isOnDisk guid => (store.isOnDisk guid, store)
  | .load guid => (store.load guid none, store)
  | .loadAs guid kind => (store.load guid (some kind), store)
  | .promote guid =>
      match store.promote guid with
      | .ok promoted => (.ok (), promoted)
      | .error error => (.error error, store)
  | .reopen => store.reopen

def answers (store : Store) : List Request → List Answered
  | [] => []
  | request :: rest =>
      let (reply, store) := store.answer request
      ⟨request, reply⟩ :: store.answers rest

end Store

/-- What the callers of a store see of it. -/
structure Tiers where
  memory : Memory
  disk : Memory

namespace Tiers

open Store (Answered Request)

def empty : Tiers := ⟨∅, ∅⟩

/-- Only for a safe guid is the disk asked at all. -/
def onDisk {α : Type} (guid : Guid) (result : Except EngineError α) : Except EngineError α :=
  if guid.isSafe then result else .error (.invalidGuid guid)

def load (tiers : Tiers) (guid : Guid) : Except EngineError Entity :=
  onDisk guid <|
    match tiers.disk[guid]? with
    | some entity => .ok entity
    | none => .error (.entityNotFound guid)

def loadAs (tiers : Tiers) (guid : Guid) (kind : Kind) : Except EngineError Entity := do
  let entity ← tiers.load guid
  if entity.kind = kind then .ok entity else .error (.wrongKind guid kind entity.kind)

def answer (tiers : Tiers) : (request : Request) → request.Answer × Tiers
  | .put guid entity => ((), { tiers with memory := tiers.memory.insert guid entity })
  | .putAll entities => ((), { tiers with memory := tiers.memory.insertMany entities })
  | .get guid => (tiers.memory[guid]?, tiers)
  | .contains guid => (tiers.memory.contains guid, tiers)
  | .size => (tiers.memory.size, tiers)
  | .persist guid entity =>
      if entity.isScalar then (.ok false, tiers)
      else if guid.isSafe then (.ok true, { tiers with disk := tiers.disk.insert guid entity })
      else (.error (.invalidGuid guid), tiers)
  | .isOnDisk guid => (onDisk guid (.ok (tiers.disk.contains guid)), tiers)
  | .load guid => (tiers.load guid, tiers)
  | .loadAs guid kind => (tiers.loadAs guid kind, tiers)
  | .promote guid =>
      match tiers.load guid with
      | .ok entity => (.ok (), { tiers with memory := tiers.memory.insert guid entity })
      | .error error => (.error error, tiers)
  | .reopen => (.ok (), { tiers with memory := ∅ })

def answers (tiers : Tiers) : List Request → List Answered
  | [] => []
  | request :: rest =>
      let (reply, tiers) := tiers.answer request
      ⟨request, reply⟩ :: tiers.answers rest

end Tiers

namespace Store

/-- The store is in a state of which the tiers are all that can be seen: opening finds the areas
again, and the ordered area holds the lower tier. -/
structure Refines (store : Store) (tiers : Tiers) : Prop where
  memory : store.memory = tiers.memory
  disk : store.ordered.Holds store.files tiers.disk
  reopens : ∀ {later : Files}, Files.Keeps store.files later →
    openAreas store.ordered.name store.staging.name later
      = (.ok { store with memory := ∅, files := later }, later)

namespace Refines

variable {store : Store} {tiers : Tiers} {guid : Guid} {entity : Entity}

theorem loadExpecting_eq (h : store.Refines tiers) (expected : Option Kind) :
    store.ordered.load guid expected store.files
      = tiers.load guid >>= fun entity => Area.ofKind guid entity expected := by
  unfold Tiers.load Tiers.onDisk
  cases safe : guid.isSafe with
  | false =>
      rw [Area.load_of_not_isSafe safe]
      rfl
  | true =>
      cases found : tiers.disk[guid]? with
      | none => simp [h.disk.load_of_none safe found, bind, Except.bind]
      | some entity => simp [h.disk.load_of_some found, bind, Except.bind]

theorem load_eq (h : store.Refines tiers) : store.load guid none = tiers.load guid := by
  rw [Store.load, h.loadExpecting_eq]
  cases tiers.load guid <;> rfl

theorem loadAs_eq (h : store.Refines tiers) {kind : Kind} :
    store.load guid (some kind) = tiers.loadAs guid kind := by
  rw [Store.load, h.loadExpecting_eq]
  rfl

theorem isOnDisk_eq (h : store.Refines tiers) :
    store.isOnDisk guid = Tiers.onDisk guid (.ok (tiers.disk.contains guid)) := by
  unfold Tiers.onDisk
  cases safe : guid.isSafe with
  | false =>
      rw [isOnDisk, Area.contains_of_not_isSafe safe]
      rfl
  | true => simp [isOnDisk, h.disk.contains_eq safe]

theorem withMemory (h : store.Refines tiers) (memory : Memory) :
    Refines { store with memory } { tiers with memory } :=
  ⟨rfl, h.disk, h.reopens⟩

/-- A save goes through the files of its guid and shows in the lower tier only. -/
theorem persist (h : store.Refines tiers)
    (sound : entity.validate = .ok () ∧ entity.encode.length ≤ Format.sizeLimit) :
    (store.persist guid entity).1 = (tiers.answer (.persist guid entity)).1 ∧
      (store.persist guid entity).2.Refines (tiers.answer (.persist guid entity)).2 := by
  rw [Store.persist, Tiers.answer]
  cases scalar : entity.isScalar with
  | true => exact ⟨rfl, h⟩
  | false =>
      cases safe : guid.isSafe with
      | false =>
          rw [save, Area.save_of_not_isSafe safe]
          exact ⟨rfl, h⟩
      | true =>
          obtain ⟨changed, saves, update⟩ := Area.save_of_ready entity safe h.disk.ready
          have keeps : Files.Keeps store.files changed := h.disk.ready.keeps update
          rw [save, saves]
          exact ⟨rfl, h.memory, h.disk.insert safe ⟨scalar, sound.1, sound.2⟩ update,
            fun later => h.reopens (keeps.trans later)⟩

/-- One request: the answers agree, and so do the states after it. -/
theorem answer (h : store.Refines tiers) (request : Request) (sound : request.Sound) :
    (store.answer request).1 = (tiers.answer request).1 ∧
      (store.answer request).2.Refines (tiers.answer request).2 := by
  cases request with
  | put guid entity =>
      refine ⟨rfl, ?_⟩
      rw [Store.answer, Tiers.answer, Store.put, h.memory]
      exact h.withMemory _
  | putAll entities =>
      refine ⟨rfl, ?_⟩
      rw [Store.answer, Tiers.answer, Store.putAll, h.memory]
      exact h.withMemory _
  | get guid => exact ⟨congrArg (·[guid]?) h.memory, h⟩
  | contains guid => exact ⟨congrArg (·.contains guid) h.memory, h⟩
  | size => exact ⟨congrArg (·.size) h.memory, h⟩
  | persist guid entity => exact h.persist sound
  | isOnDisk guid => exact ⟨h.isOnDisk_eq, h⟩
  | load guid => exact ⟨h.load_eq, h⟩
  | loadAs guid kind => exact ⟨h.loadAs_eq, h⟩
  | promote guid =>
      rw [Store.answer, Tiers.answer, Store.promote, h.load_eq]
      cases tiers.load guid with
      | error error => exact ⟨rfl, h⟩
      | ok entity =>
          refine ⟨rfl, ?_⟩
          simp only [bind, Except.bind, pure, Except.pure, Store.put, h.memory]
          exact h.withMemory _
  | reopen =>
      rw [Store.answer, Tiers.answer, Store.reopen, h.reopens (.refl _)]
      exact ⟨rfl, h.withMemory ∅⟩

theorem answers_eq (h : store.Refines tiers) {requests : List Request}
    (sound : ∀ request ∈ requests, request.Sound) :
    store.answers requests = tiers.answers requests := by
  induction requests generalizing store tiers with
  | nil => rfl
  | cons request rest ih =>
      obtain ⟨same, next⟩ := h.answer request (sound request List.mem_cons_self)
      have others := ih next fun other inRest => sound other (List.mem_cons_of_mem _ inRest)
      simp only [Store.answers, Tiers.answers, same, others]

end Refines

variable {store : Store} {files opened : Files} {ordered staging : String}

theorem refines_empty (opens : openAreas ordered staging files = (.ok store, opened))
    (isEmpty : store.ordered.IsEmpty opened) : store.Refines .empty := by
  obtain ⟨noMemory, rfl⟩ := openAreas_ok opens
  exact ⟨noMemory, .of_isEmpty isEmpty, openAreas_again opens⟩

/-- Over an empty area a store answers every run of requests as two empty maps do. -/
theorem answers_eq_tiers (opens : openAreas ordered staging files = (.ok store, opened))
    (isEmpty : store.ordered.IsEmpty opened) (requests : List Request)
    (sound : ∀ request ∈ requests, request.Sound) :
    store.answers requests = Tiers.empty.answers requests :=
  (refines_empty opens isEmpty).answers_eq sound

def vertices : Entity := .vertexSet ⟨[3, 5]⟩

def saveAndPromote : List Request :=
  [.persist ⟨"vertices"⟩ vertices, .persist ⟨".."⟩ vertices, .reopen, .get ⟨"vertices"⟩,
    .loadAs ⟨"vertices"⟩ .edgeBundle, .promote ⟨"vertices"⟩, .get ⟨"vertices"⟩, .isOnDisk ⟨"none"⟩]

theorem isEmpty_twoAreas : overTwoAreas.ordered.IsEmpty twoAreas := by
  refine ⟨⟨by decide +kernel, by decide +kernel⟩, fun name rest => ?_⟩
  have nothing : Files.empty.node? ("ordered" :: name :: rest) = none := by
    simp [Files.node?, Files.empty]
  simp only [twoAreas, overTwoAreas, List.cons_append, List.nil_append]
  rw [Files.node?_put (by simp), if_neg (by simp), Files.node?_put (by simp), if_neg (by simp),
    nothing]

theorem answers_saveAndPromote :
    openAreas "ordered" "staging" twoAreas = (.ok overTwoAreas, twoAreas) ∧
      overTwoAreas.ordered.IsEmpty twoAreas ∧ (∀ request ∈ saveAndPromote, request.Sound) ∧
      overTwoAreas.answers saveAndPromote = Tiers.empty.answers saveAndPromote := by
  have sound : ∀ request ∈ saveAndPromote, request.Sound := by
    have fits : vertices.validate = .ok () ∧ vertices.encode.length ≤ Format.sizeLimit := by
      decide +kernel
    simp [saveAndPromote, Request.Sound, fits]
  exact ⟨openAreas_twoAreas, isEmpty_twoAreas, sound,
    answers_eq_tiers openAreas_twoAreas isEmpty_twoAreas saveAndPromote sound⟩

end Store
end GraphEngine
