import GraphEngine.Registry
import GraphEngine.Session
import GraphEngine.Store

/-!
Calls to the engine.

A computation passes a gate before its body runs: the text must describe a registered operation,
every output guid must be safe, and every input must be in memory. After the body the id sets are
derived and every output is checked; only then do the outputs reach memory, all of them at once.
-/
namespace GraphEngine

structure Engine where
  registry : Registry
  helper : Helper

/-- How a computation ended. -/
structure Computation where
  /-- The outputs that are to be written to the ordered area. -/
  result : Except EngineError (List (Guid × Entity))
  /-- What the body remarked. -/
  remarks : List (Except EngineError Json)
  store : Store

namespace Engine

def operation? (engine : Engine) (descriptor : Descriptor) : Option (Program Unit) :=
  descriptor.operationName?.bind engine.registry.get?

def canCompute (engine : Engine) (text : String) : Except EngineError Bool := do
  return (engine.operation? (← Descriptor.parse text)).isSome

def bindInput (store : Store) (slot : String × Guid) :
    Except EngineError (String × Guid × Entity) :=
  match store.get? slot.2 with
  | some entity => .ok (slot.1, slot.2, entity)
  | none => .error (.entityNotFound slot.2)

/-- The body and the session in which it is to run. -/
def prepare (engine : Engine) (store : Store) (text : String) :
    Except EngineError (Program Unit × Session) := do
  let descriptor ← Descriptor.parse text
  match engine.operation? descriptor with
  | none => .error (.unsupportedOperation descriptor.className)
  | some body =>
      descriptor.outputs.values.forM Guid.check
      let inputs ← descriptor.inputs.toList.mapM (bindInput store)
      return (body, ⟨descriptor, .ofList inputs, store.staging, engine.helper⟩)

/-- What follows the name of an edge bundle in the name of its id set. -/
def idSetEnding : String := "-idSet"

/-- The identifiers of the edges in a bundle, as a vertex set in the slot of its id set. -/
def deriveIdSet (slots : Slots) (outputs : Outputs) (name : String) :
    Except EngineError Outputs :=
  match Affix.before? idSetEnding name with
  | none => .ok outputs
  | some bundle =>
      match slots[bundle]? with
      | none => .error (.unknownOutput bundle)
      | some guid =>
          match outputs[bundle]? with
          | some (.edgeBundle edges) =>
              .ok (outputs.insert name (.vertexSet ⟨edges.externalIds⟩))
          | some other => .error (.wrongKind guid .edgeBundle other.kind)
          | none => .error (.typeMismatch guid .edgeBundle "no output")

def deriveIdSets (slots : Slots) (outputs : Outputs) : Except EngineError Outputs :=
  slots.keys.foldlM (deriveIdSet slots) outputs

/-- The outputs under their guids, in the order of their slots. -/
def bindOutputs (slots : Slots) (outputs : Outputs) : List (Guid × Entity) :=
  outputs.toList.filterMap fun (name, entity) => slots[name]?.map fun guid => (guid, entity)

/-- Nothing that is not valid leaves a computation. -/
def finish (slots : Slots) (outputs : Outputs) : Except EngineError (List (Guid × Entity)) := do
  let bound := bindOutputs slots (← deriveIdSets slots outputs)
  bound.forM fun (_, entity) => entity.validate
  return bound

def compute (engine : Engine) (store : Store) (text : String) : Computation :=
  match engine.prepare store text with
  | .error error => ⟨.error error, [], store⟩
  | .ok (body, session) =>
      let (result, progress) := session.run body ⟨∅, store.files, []⟩
      let remarks := progress.remarks.reverse
      let store := { store with files := progress.files }
      match result.bind fun () => finish session.descriptor.outputs progress.outputs with
      | .error error => ⟨.error error, remarks, store⟩
      | .ok bound =>
          ⟨.ok (bound.filter fun (_, entity) => ! entity.isScalar), remarks,
            store.putAll bound⟩

/-- The text of a scalar in memory. -/
def scalarText (store : Store) (guid : Guid) : Except EngineError String := do
  match store.get? guid with
  | none => .error (.entityNotFound guid)
  | some entity => return (← entity.asScalar guid).compact

end Engine
end GraphEngine
