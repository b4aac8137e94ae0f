import GraphEngine.Proofs.Engine.Compute
import GraphEngine.Proofs.Persistence.Reordering
import GraphEngine.Proofs.Session.Unaided

/-!
Computations that know nothing of each other.

A body without a helper and without staging sees the entities under its input guids and nothing else
of the store, and only its output guids are written. So two computations that meet in no guid end
in the same way in either order, and leave the same store.
-/
namespace GraphEngine

namespace Store

variable {store other : Store} {guid : Guid} {bound later : List (Guid × Entity)}

theorem putAll_nil (store : Store) : store.putAll [] = store := by
  rw [putAll, Std.ExtTreeMap.insertMany_nil]

theorem get?_putAll (unlisted : guid ∉ bound.map Prod.fst) :
    (store.putAll bound).get? guid = store.get? guid :=
  Maps.getElem?_insertMany_of_not_mem unlisted

theorem putAll_comm (apart : ∀ guid ∈ bound.map Prod.fst, guid ∉ later.map Prod.fst) :
    (store.putAll bound).putAll later = (store.putAll later).putAll bound := by
  simp only [putAll, Maps.insertMany_comm apart]

/-- The memory and the files do not get in each other's way. -/
theorem putAll_persistAll (store : Store) (jobs : List Job) :
    (store.persistAll jobs).putAll bound = (store.putAll bound).persistAll jobs := by
  induction jobs generalizing store with
  | nil => rfl
  | cons job rest ih =>
      have first : (store.persistJob job).putAll bound = (store.putAll bound).persistJob job := by
        rw [persistJob_eq_perform, persistJob_eq_perform]
        rfl
      change ((store.persistJob job).persistAll rest).putAll bound = _
      rw [ih, first]
      rfl

/-- Jobs that share no guid may be persisted in either order. -/
theorem persistAll_append_comm {jobs others : List Job}
    (apart : ∀ guid ∈ jobs.map Prod.fst, guid ∉ others.map Prod.fst) :
    store.persistAll (jobs ++ others) = store.persistAll (others ++ jobs) := by
  refine persistAll_of_filter fun guid => ?_
  rw [List.filter_append, List.filter_append]
  by_cases listed : guid ∈ jobs.map Prod.fst
  · have none : others.filter (·.1 = guid) = [] := List.filter_eq_nil_iff.mpr
      fun job isOther same => apart guid listed
        (List.mem_map.mpr ⟨job, isOther, of_decide_eq_true same⟩)
    rw [none, List.append_nil, List.nil_append]
  · have none : jobs.filter (·.1 = guid) = [] := List.filter_eq_nil_iff.mpr
      fun job isJob same => listed (List.mem_map.mpr ⟨job, isJob, of_decide_eq_true same⟩)
    rw [none, List.append_nil, List.nil_append]

end Store

namespace Engine

variable {engine : Engine} {store : Store} {text : String} {descriptor : Descriptor}

/-- The text describes an operation whose body needs neither staging nor a helper. -/
structure AsksUnaided (engine : Engine) (text : String) (descriptor : Descriptor) : Prop where
  parses : Descriptor.parse text = .ok descriptor
  body : ∃ body, engine.operation? descriptor = some body ∧ body.Unaided

/-- The entities under the input guids are the same. -/
def AgreeOnInputs (descriptor : Descriptor) (store other : Store) : Prop :=
  ∀ guid ∈ descriptor.inputs.values, other.get? guid = store.get? guid

theorem mapM_bindInput {other : Store} (agree : AgreeOnInputs descriptor store other) :
    descriptor.inputs.toList.mapM (bindInput other)
      = descriptor.inputs.toList.mapM (bindInput store) := by
  have same : ∀ slot ∈ descriptor.inputs.toList, bindInput other slot = bindInput store slot := by
    intro slot listed
    have declared : slot.2 ∈ descriptor.inputs.values := by
      rw [Maps.values_eq_map_snd]
      exact List.mem_map_of_mem listed
    rw [bindInput, agree _ declared]
    rfl
  generalize descriptor.inputs.toList = slots at same
  induction slots with
  | nil => rfl
  | cons slot rest ih =>
      rw [List.forall_mem_cons] at same
      rw [List.mapM_cons, List.mapM_cons, same.1, ih same.2]

theorem prepare_elsewhere {other : Store} (parses : Descriptor.parse text = .ok descriptor)
    (agree : AgreeOnInputs descriptor store other) :
    engine.prepare other text = (engine.prepare store text).map fun (body, session) =>
      (body, { session with staging := other.staging }) := by
  simp only [prepare, parses, mapM_bindInput agree, bind, Except.bind]
  split
  · rfl
  · split
    · rfl
    · split <;> rfl

/-- The computation ends like this, and writes just these entities into the memory, over every
store that agrees with the given one on the inputs. -/
structure Determined (engine : Engine) (store : Store) (text : String) (descriptor : Descriptor)
    (result : Except EngineError (List (Guid × Entity)))
    (remarks : List (Except EngineError Json)) (bound : List (Guid × Entity)) : Prop where
  declared : ∀ guid ∈ bound.map Prod.fst, guid ∈ descriptor.outputs.values
  persisted : ∀ list, result = .ok list → ∀ output ∈ list, output ∈ bound
  computes : ∀ other : Store, AgreeOnInputs descriptor store other →
    engine.compute other text = ⟨result, remarks, other.putAll bound⟩

theorem declared_bindOutputs {slots : Slots} {outputs : Outputs} {guid : Guid}
    (listed : guid ∈ (bindOutputs slots outputs).map Prod.fst) : guid ∈ slots.values := by
  rw [bindOutputs_eq, List.map_map] at listed
  obtain ⟨⟨name, _, entity⟩, isBound, rfl⟩ := List.mem_map.mp listed
  exact Maps.mem_values.mpr ⟨name, (mem_boundSlots.mp isBound).1⟩

theorem exists_determined (asks : engine.AsksUnaided text descriptor) (store : Store) :
    ∃ result remarks bound, engine.Determined store text descriptor result remarks bound := by
  cases prepared : engine.prepare store text with
  | error error =>
      refine ⟨.error error, [], [], by simp, by simp, fun other agree => ?_⟩
      rw [compute, prepare_elsewhere asks.parses agree, prepared, Store.putAll_nil]
      rfl
  | ok passed =>
      obtain ⟨body, session⟩ := passed
      have admits := admits_of_prepare prepared
      obtain ⟨body', operation, unaided⟩ := asks.body
      cases asks.parses.symm.trans admits.parses
      cases operation.symm.trans admits.operation
      rcases ran : session.run body ⟨∅, store.files, []⟩ with ⟨ended, progress⟩
      have elsewhere (other : Store) := Session.run_elsewhere (unaided session ⟨∅, store.files, []⟩)
        other.staging session.helper other.files
      simp only [ran] at elsewhere
      cases finished : ended.bind fun () => finish session.descriptor.outputs progress.outputs with
      | error error =>
          refine ⟨.error error, progress.remarks.reverse, [], by simp, by simp,
            fun other agree => ?_⟩
          rw [compute, prepare_elsewhere asks.parses agree, prepared, Store.putAll_nil]
          simp only [Except.map, elsewhere, finished]
      | ok bound =>
          refine ⟨.ok (bound.filter fun output => ! output.2.isScalar), progress.remarks.reverse,
            bound, ?_, ?_, fun other agree => ?_⟩
          · obtain ⟨_, _, finishes⟩ := Result.bind_eq_ok.mp finished
            obtain ⟨derived, _, rfl, _⟩ := finish_eq_ok finishes
            exact fun guid => declared_bindOutputs
          · rintro list ⟨⟩ output listed
            exact (List.mem_filter.mp listed).1
          · rw [compute, prepare_elsewhere asks.parses agree, prepared]
            simp only [Except.map, elsewhere, finished]

/-- The computation as an action on the store. -/
def acting (engine : Engine) (text : String) (store : Store) :
    (Except EngineError (List (Guid × Entity)) × List (Except EngineError Json)) × Store :=
  let computation := engine.compute store text
  ((computation.result, computation.remarks), computation.store)

/-- What a computation that ends like this hands over for the ordered area. -/
def toPersist (result : Except EngineError (List (Guid × Entity))) : List Job :=
  result.toOption.getD []

/-- The computation as an action that includes persisting what it hands over. -/
def actingAndPersisting (engine : Engine) (text : String) (store : Store) :
    (Except EngineError (List (Guid × Entity)) × List (Except EngineError Json)) × Store :=
  let computation := engine.compute store text
  ((computation.result, computation.remarks),
    computation.store.persistAll (toPersist computation.result))

/-- What the first declares as its outputs, the second neither reads nor writes. -/
def WritesApart (first second : Descriptor) : Prop :=
  ∀ guid ∈ first.outputs.values, guid ∉ second.inputs.values ∧ guid ∉ second.outputs.values

namespace Determined

variable {other : Store} {result : Except EngineError (List (Guid × Entity))}
  {remarks : List (Except EngineError Json)} {bound written : List (Guid × Entity)}
  {second : Descriptor}

theorem acting_eq (h : engine.Determined store text descriptor result remarks bound)
    (agree : AgreeOnInputs descriptor store other) :
    engine.acting text other = ((result, remarks), other.putAll bound) := by
  rw [acting, h.computes other agree]

theorem actingAndPersisting_eq
    (h : engine.Determined store text descriptor result remarks bound)
    (agree : AgreeOnInputs descriptor store other) :
    engine.actingAndPersisting text other =
      ((result, remarks), (other.putAll bound).persistAll (toPersist result)) := by
  rw [actingAndPersisting, h.computes other agree]

theorem declared_toPersist (h : engine.Determined store text descriptor result remarks bound)
    {guid : Guid} (listed : guid ∈ (toPersist result).map Prod.fst) :
    guid ∈ descriptor.outputs.values := by
  obtain ⟨output, isListed, rfl⟩ := List.mem_map.mp listed
  cases result with
  | error error => cases isListed
  | ok list => exact h.declared _ (List.mem_map_of_mem (h.persisted list rfl output isListed))

end Determined

theorem AgreeOnInputs.refl (store : Store) : AgreeOnInputs descriptor store store :=
  fun _ _ => rfl

theorem AgreeOnInputs.of_memory {other : Store} (same : other.memory = store.memory) :
    AgreeOnInputs descriptor store other :=
  fun guid _ => congrArg (·[guid]?) same

/-- Outputs that are bound to other guids leave the inputs as they are. -/
theorem AgreeOnInputs.putAll {bound : List (Guid × Entity)} {writer : Descriptor}
    (apart : WritesApart writer descriptor)
    (declared : ∀ guid ∈ bound.map Prod.fst, guid ∈ writer.outputs.values) :
    AgreeOnInputs descriptor store (store.putAll bound) :=
  fun guid isInput => Store.get?_putAll fun listed => (apart guid (declared guid listed)).1 isInput

theorem AgreeOnInputs.persistAll {other : Store} (agree : AgreeOnInputs descriptor store other)
    (jobs : List Job) : AgreeOnInputs descriptor store (other.persistAll jobs) := by
  obtain ⟨files, persisted⟩ := other.persistAll_eq_files jobs
  rw [persisted]
  exact agree

section Two

variable {one other : String} {first second : Descriptor}

/-- Over any store both are determined, and neither changes what the other depends on or writes. -/
theorem exists_both (asks : engine.AsksUnaided one first)
    (asksOther : engine.AsksUnaided other second) (apart : WritesApart first second)
    (apartOther : WritesApart second first) (store : Store) :
    ∃ result remarks bound resultOther remarksOther boundOther,
      engine.Determined store one first result remarks bound ∧
      engine.Determined store other second resultOther remarksOther boundOther ∧
      AgreeOnInputs first store (store.putAll boundOther) ∧
      AgreeOnInputs second store (store.putAll bound) ∧
      (∀ guid ∈ boundOther.map Prod.fst, guid ∉ bound.map Prod.fst) ∧
      ∀ guid ∈ (toPersist resultOther).map Prod.fst, guid ∉ (toPersist result).map Prod.fst := by
  obtain ⟨result, remarks, bound, determined⟩ := exists_determined asks store
  obtain ⟨resultOther, remarksOther, boundOther, determinedOther⟩ :=
    exists_determined asksOther store
  refine ⟨_, _, _, _, _, _, determined, determinedOther, .putAll apartOther determinedOther.declared,
    .putAll apart determined.declared, fun guid listed listedToo => ?_,
    fun guid listed listedToo => ?_⟩
  · exact (apart guid (determined.declared guid listedToo)).2
      (determinedOther.declared guid listed)
  · exact (apart guid (determined.declared_toPersist listedToo)).2
      (determinedOther.declared_toPersist listed)

theorem independent_acting (asks : engine.AsksUnaided one first)
    (asksOther : engine.AsksUnaided other second) (apart : WritesApart first second)
    (apartOther : WritesApart second first) :
    Independent (engine.acting one) (engine.acting other) := by
  refine .of_forall fun store => ?_
  obtain ⟨_, _, _, _, _, _, determined, determinedOther, agree, agreeOther, disjoint, _⟩ :=
    exists_both asks asksOther apart apartOther store
  rw [determined.acting_eq (.refl store), determinedOther.acting_eq (.refl store),
    determined.acting_eq agree, determinedOther.acting_eq agreeOther]
  exact ⟨rfl, rfl, Store.putAll_comm disjoint⟩

/-- The jobs of the one may also be persisted before the other is computed. -/
theorem independent_actingAndPersisting (asks : engine.AsksUnaided one first)
    (asksOther : engine.AsksUnaided other second) (apart : WritesApart first second)
    (apartOther : WritesApart second first) :
    Independent (engine.actingAndPersisting one) (engine.actingAndPersisting other) := by
  refine .of_forall fun store => ?_
  obtain ⟨_, _, _, _, _, _, determined, determinedOther, agree, agreeOther, disjoint,
    disjointJobs⟩ := exists_both asks asksOther apart apartOther store
  rw [determined.actingAndPersisting_eq (.refl store),
    determinedOther.actingAndPersisting_eq (.refl store),
    determined.actingAndPersisting_eq (agree.persistAll _),
    determinedOther.actingAndPersisting_eq (agreeOther.persistAll _)]
  refine ⟨rfl, rfl, ?_⟩
  dsimp only
  rw [Store.putAll_persistAll, Store.putAll_persistAll, Store.putAll_comm disjoint,
    ← Store.persistAll_append, ← Store.persistAll_append, Store.persistAll_append_comm disjointJobs]

/-- All jobs may also be persisted in the end, in the order of the computations. -/
theorem persistAll_of_both (asks : engine.AsksUnaided one first)
    (asksOther : engine.AsksUnaided other second) (apart : WritesApart first second)
    (apartOther : WritesApart second first) (store : Store) :
    (engine.acting other (engine.acting one store).2).2.persistAll
        (toPersist (engine.acting one store).1.1 ++
          toPersist (engine.acting other (engine.acting one store).2).1.1) =
      (engine.acting one (engine.acting other store).2).2.persistAll
        (toPersist (engine.acting other store).1.1 ++
          toPersist (engine.acting one (engine.acting other store).2).1.1) := by
  obtain ⟨_, _, _, _, _, _, determined, determinedOther, agree, agreeOther, disjoint,
    disjointJobs⟩ := exists_both asks asksOther apart apartOther store
  rw [determined.acting_eq (.refl store), determinedOther.acting_eq (.refl store),
    determined.acting_eq agree, determinedOther.acting_eq agreeOther, Store.putAll_comm disjoint,
    Store.persistAll_append_comm disjointJobs]

/-- Over another store with the same memory a computation ends in the same way. -/
theorem acting_of_memory (asks : engine.AsksUnaided text descriptor) {store elsewhere : Store}
    (same : elsewhere.memory = store.memory) :
    (engine.acting text elsewhere).1 = (engine.acting text store).1 ∧
      (engine.acting text elsewhere).2.memory = (engine.acting text store).2.memory := by
  obtain ⟨_, _, bound, determined⟩ := exists_determined asks store
  rw [determined.acting_eq (.refl store), determined.acting_eq (.of_memory same)]
  exact ⟨rfl, congrArg (·.insertMany bound) same⟩

/-- Computations that share no guid commute: neither can tell whether the other has come first, and
memory and areas are the same in the end, whether what they hand over is persisted in between or
at last. What is in the areas has no part in their results. -/
theorem computations_commute (asks : engine.AsksUnaided one first)
    (asksOther : engine.AsksUnaided other second) (apart : WritesApart first second)
    (apartOther : WritesApart second first) :
    Independent (engine.acting one) (engine.acting other) ∧
    Independent (engine.actingAndPersisting one) (engine.actingAndPersisting other) ∧
    (∀ store,
      (engine.acting other (engine.acting one store).2).2.persistAll
          (toPersist (engine.acting one store).1.1 ++
            toPersist (engine.acting other (engine.acting one store).2).1.1) =
        (engine.acting one (engine.acting other store).2).2.persistAll
          (toPersist (engine.acting other store).1.1 ++
            toPersist (engine.acting one (engine.acting other store).2).1.1)) ∧
    ∀ store elsewhere : Store, elsewhere.memory = store.memory →
      ((engine.acting one elsewhere).1 = (engine.acting one store).1 ∧
        (engine.acting one elsewhere).2.memory = (engine.acting one store).2.memory) ∧
      (engine.acting other elsewhere).1 = (engine.acting other store).1 ∧
        (engine.acting other elsewhere).2.memory = (engine.acting other store).2.memory :=
  ⟨independent_acting asks asksOther apart apartOther,
    independent_actingAndPersisting asks asksOther apart apartOther,
    persistAll_of_both asks asksOther apart apartOther,
    fun _ _ same => ⟨acting_of_memory asks same, acting_of_memory asksOther same⟩⟩

end Two

def namesAsEdges : String :=
  "\x7b\"Operation\":\x7b\"Class\":\"com.lynxanalytics.biggraph.graph_operations.ExampleGraph\"\x7d,"
    ++ "\"Outputs\":\x7b\"vertices\":\"v\",\"name\":\"n\",\"name-idSet\":\"s\"\x7d\x7d"

/-- Whether the text asks for the example graph, without inputs and with outputs at these guids. -/
def asksExampleGraph (text : String) (outputs : List Guid) : Bool :=
  match Descriptor.parse text with
  | .ok descriptor =>
      descriptor.operationName? = some "ExampleGraph" && descriptor.inputs.values.isEmpty &&
        descriptor.outputs.values = outputs
  | .error _ => false

theorem exists_asksUnaided {outputs : List Guid} (h : asksExampleGraph text outputs = true) :
    ∃ descriptor, withExampleGraph.AsksUnaided text descriptor ∧ descriptor.inputs.values = [] ∧
      descriptor.outputs.values = outputs := by
  unfold asksExampleGraph at h
  split at h
  · next descriptor parses =>
      simp only [Bool.and_eq_true, decide_eq_true_eq, List.isEmpty_iff] at h
      obtain ⟨⟨named, noInputs⟩, bound⟩ := h
      refine ⟨descriptor, ⟨parses, Operation.ExampleGraph.body, ?_, Program.unaided_handOver _⟩,
        noInputs, bound⟩
      rw [operation?, named]
      rfl
  · cases h

theorem commute_edgesAndIds_namesAsEdges :
    ∃ first second, withExampleGraph.AsksUnaided edgesAndIds first ∧
      withExampleGraph.AsksUnaided namesAsEdges second ∧
      WritesApart first second ∧ WritesApart second first ∧
      (withExampleGraph.compute .overTwoAreas edgesAndIds).result.isOk = true ∧
      (withExampleGraph.compute .overTwoAreas namesAsEdges).result.isOk = false ∧
      Independent (withExampleGraph.acting edgesAndIds) (withExampleGraph.acting namesAsEdges) := by
  obtain ⟨first, asks, noInputs, outputs⟩ :=
    exists_asksUnaided (show asksExampleGraph edgesAndIds [⟨"e"⟩, ⟨"i"⟩] = true by decide +kernel)
  obtain ⟨second, asksOther, noInputsOther, outputsOther⟩ := exists_asksUnaided
    (show asksExampleGraph namesAsEdges [⟨"n"⟩, ⟨"s"⟩, ⟨"v"⟩] = true by decide +kernel)
  have apart : WritesApart first second := by
    rw [WritesApart, outputs, noInputsOther, outputsOther]
    decide
  have apartOther : WritesApart second first := by
    rw [WritesApart, outputs, noInputs, outputsOther]
    decide
  exact ⟨first, second, asks, asksOther, apart, apartOther, by decide +kernel, by decide +kernel,
    (computations_commute asks asksOther apart apartOther).1⟩

end Engine
end GraphEngine
