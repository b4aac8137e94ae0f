import GraphEngine.Proofs.Engine.Commuting
import GraphEngine.Proofs.Persistence.Repetition

/-!
Computing the same once more.

A computation that does not overwrite its own inputs finds them as they were when it is asked for a
second time. So it ends in the same way, and writes into the memory what is there already, also
where several outputs share a guid; and what it hands over is persisted over the same.
-/
namespace GraphEngine

namespace Store

variable {store later : Store} {bound : List (Guid × Entity)}

/-- What the memory holds already may be put there again. -/
theorem putAll_eq_self (same : later.memory = (store.putAll bound).memory) :
    later.putAll bound = later := by
  have again : later.memory.insertMany bound = later.memory := by
    rw [same, putAll, Maps.insertMany_insertMany_self]
  rw [putAll, again]

end Store

namespace Engine

variable {engine : Engine} {store later : Store} {text : String} {descriptor : Descriptor}

/-- None of the guids that are written is read. -/
def SparesInputs (descriptor : Descriptor) : Prop :=
  ∀ guid ∈ descriptor.outputs.values, guid ∉ descriptor.inputs.values

theorem Determined.agree {result : Except EngineError (List (Guid × Entity))}
    {remarks : List (Except EngineError Json)} {bound : List (Guid × Entity)}
    (h : engine.Determined store text descriptor result remarks bound)
    (spares : SparesInputs descriptor) (same : later.memory = (store.putAll bound).memory) :
    AgreeOnInputs descriptor store later := by
  intro guid isInput
  have unlisted : guid ∉ bound.map Prod.fst := fun listed =>
    spares guid (h.declared guid listed) isInput
  calc later.get? guid
    _ = (store.putAll bound).get? guid := congrArg (·[guid]?) same
    _ = store.get? guid := Store.get?_putAll unlisted

/-- Where the memory is as the computation has left it, whatever has become of the files, the
computation ends as it did and changes nothing. -/
theorem acting_again (asks : engine.AsksUnaided text descriptor)
    (spares : SparesInputs descriptor) (store : Store)
    (same : later.memory = (engine.acting text store).2.memory) :
    engine.acting text later = ((engine.acting text store).1, later) := by
  obtain ⟨result, remarks, bound, determined⟩ := exists_determined asks store
  rw [determined.acting_eq (.refl store)] at same ⊢
  rw [determined.acting_eq (determined.agree spares same), Store.putAll_eq_self same]

theorem memory_persistAll (store : Store) (jobs : List Job) :
    (store.persistAll jobs).memory = store.memory := by
  obtain ⟨files, persisted⟩ := store.persistAll_eq_files jobs
  rw [persisted]

theorem actingAndPersisting_eq_acting (engine : Engine) (text : String) (store : Store) :
    engine.actingAndPersisting text store =
      ((engine.acting text store).1,
        (engine.acting text store).2.persistAll (toPersist (engine.acting text store).1.1)) :=
  rfl

/-- The second time, also the jobs are done over what they have left. -/
theorem actingAndPersisting_again (asks : engine.AsksUnaided text descriptor)
    (spares : SparesInputs descriptor) (store : Store) :
    engine.actingAndPersisting text (engine.actingAndPersisting text store).2
      = engine.actingAndPersisting text store := by
  have same : (engine.actingAndPersisting text store).2.memory
      = (engine.acting text store).2.memory := memory_persistAll _ _
  rw [actingAndPersisting_eq_acting engine text (engine.actingAndPersisting text store).2,
    acting_again asks spares store same, actingAndPersisting_eq_acting]
  exact congrArg (Prod.mk _) (Store.persistAll_twice _ _).1

/-- A second computation ends as the first has ended, with the same list or the same error, and
leaves the memory as it is, whether or not the first list has been persisted by then. When both
lists are persisted, all files are as after the first, and every job ends as it did then. -/
theorem recomputing_idempotent (asks : engine.AsksUnaided text descriptor)
    (spares : SparesInputs descriptor) (store : Store) :
    let first := engine.compute store text
    let jobs := toPersist first.result
    let once := first.store.persistAll jobs
    (∀ later : Store, later.memory = first.store.memory →
      (engine.compute later text).result = first.result ∧
        (engine.compute later text).remarks = first.remarks ∧
        (engine.compute later text).store = later) ∧
    engine.actingAndPersisting text (engine.actingAndPersisting text store).2
      = engine.actingAndPersisting text store ∧
    once.persistAll jobs = once ∧
    once.outcomes jobs = first.store.outcomes jobs ∧
    ∀ job ∈ jobs, ∀ expected,
      (once.persistAll jobs).load job.1 expected = once.load job.1 expected := by
  intro first jobs once
  obtain ⟨files, answers⟩ := first.store.persistAll_twice jobs
  refine ⟨fun later same => ?_, actingAndPersisting_again asks spares store, files, answers,
    fun job _ expected => congrArg (·.load job.1 expected) files⟩
  have again := acting_again asks spares store same
  simp only [acting, Prod.mk.injEq] at again
  exact ⟨again.1.1, again.1.2, again.2⟩

/-- Vertices and edges of the example graph under one guid. -/
def sharedGuid : String :=
  "\x7b\"Operation\":\x7b\"Class\":\"com.lynxanalytics.biggraph.graph_operations.ExampleGraph\"\x7d,"
    ++ "\"Outputs\":\x7b\"vertices\":\"g\",\"edges\":\"g\",\"name\":\"n\"\x7d\x7d"

theorem recomputing_sharedGuid :
    ∃ descriptor, withExampleGraph.AsksUnaided sharedGuid descriptor ∧ SparesInputs descriptor ∧
      (withExampleGraph.compute .overTwoAreas sharedGuid).result.isOk = true ∧
      (withExampleGraph.actingAndPersisting sharedGuid
          (withExampleGraph.actingAndPersisting sharedGuid .overTwoAreas).2).2.load ⟨"g"⟩ none
        = .ok (.vertexSet ⟨[0, 1, 2, 3]⟩) := by
  obtain ⟨descriptor, asks, noInputs, outputs⟩ := exists_asksUnaided
    (show asksExampleGraph sharedGuid [⟨"g"⟩, ⟨"n"⟩, ⟨"g"⟩] = true by decide +kernel)
  have spares : SparesInputs descriptor := by
    rw [SparesInputs, outputs, noInputs]
    decide
  refine ⟨descriptor, asks, spares, by decide +kernel, ?_⟩
  rw [(recomputing_idempotent asks spares .overTwoAreas).2.1]
  decide +kernel

end Engine
end GraphEngine
