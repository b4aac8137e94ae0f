import GraphEngine.Area

/-!
Entities in memory and in the ordered area.

Reading from memory never looks at the files; what is stored there comes into memory only by
`promote`. Scalars are kept in memory alone.
-/
namespace GraphEngine

abbrev Memory := Std.ExtTreeMap Guid Entity

structure Store where
  memory : Memory
  files : Files
  ordered : Area
  staging : Area

namespace Store

/-- A store without entities in memory, over areas that are made if need be. -/
def openAreas (ordered staging : String) (files : Files) : Except EngineError Store × Files :=
  match Area.prepare ordered "ordered" files with
  | (.error error, files) => (.error error, files)
  | (.ok ordered, files) =>
      match Area.prepare staging "unordered" files with
      | (.error error, files) => (.error error, files)
      | (.ok staging, files) => (.ok ⟨∅, files, ordered, staging⟩, files)

def get? (store : Store) (guid : Guid) : Option Entity := store.memory[guid]?

def contains (store : Store) (guid : Guid) : Bool := store.memory.contains guid

def size (store : Store) : Nat := store.memory.size

def isEmpty (store : Store) : Bool := store.memory.isEmpty

def put (store : Store) (guid : Guid) (entity : Entity) : Store :=
  { store with memory := store.memory.insert guid entity }

/-- Of two entities for one guid the later one stays. -/
def putAll (store : Store) (entities : List (Guid × Entity)) : Store :=
  { store with memory := store.memory.insertMany entities }

def isOnDisk (store : Store) (guid : Guid) : Except EngineError Bool :=
  store.ordered.contains guid store.files

def load (store : Store) (guid : Guid) (expected : Option Kind) : Except EngineError Entity :=
  store.ordered.load guid expected store.files

def promote (store : Store) (guid : Guid) : Except EngineError Store := do
  return store.put guid (← store.load guid none)

/-- The result of an action on the files, and the store with the files as they are afterwards. -/
def afterwards {α : Type} (store : Store) (outcome : Except EngineError α × Files) :
    Except EngineError α × Store :=
  (outcome.1, { store with files := outcome.2 })

def save (store : Store) (guid : Guid) (entity : Entity) : Except EngineError Unit × Store :=
  store.afterwards (store.ordered.save guid entity store.files)

/-- Whether the entity was written; scalars are not. -/
def persist (store : Store) (guid : Guid) (entity : Entity) :
    Except EngineError Bool × Store :=
  if entity.isScalar then (.ok false, store)
  else
    let (result, store) := store.save guid entity
    (result.map fun _ => true, store)

def stage (store : Store) (guid : Guid) (entity : Entity) : Except EngineError Staged × Store :=
  store.afterwards (store.staging.stage guid entity store.files)

end Store
end GraphEngine
