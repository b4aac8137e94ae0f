import GraphEngine.Proofs.Engine.Foretelling
import GraphEngine.Proofs.Failures

/-!
Who is turned away at the gate.

What the gate looks at is the text, the names in the registry and the memory. It asks in a fixed
order, and the first thing that is missing is the error; by then neither the body nor the files
have been touched.
-/
namespace GraphEngine.Engine

open Maps (FirstViolation)

variable {engine other : Engine} {store : Store} {text : String}
  {descriptor : Descriptor} {error : EngineError} {body : Program Unit} {session : Session}

/-- The text describes an operation that is registered. -/
structure Asks (engine : Engine) (text : String) (descriptor : Descriptor) : Prop where
  parses : Descriptor.parse text = .ok descriptor
  registered : ∃ name, descriptor.className = Descriptor.classSpace ++ name ∧ name ≠ "" ∧
    engine.registry.contains name = true

structure SafeOutputs (descriptor : Descriptor) : Prop where
  safe : ∀ {name : String} {guid : Guid}, descriptor.outputs[name]? = some guid →
    guid.isSafe = true

/-- All that has to be the case for the body to run. -/
structure Passes (engine : Engine) (store : Store) (text : String) (descriptor : Descriptor) :
    Prop where
  asks : engine.Asks text descriptor
  outputs : SafeOutputs descriptor
  resident : ∀ {name : String} {guid : Guid}, descriptor.inputs[name]? = some guid →
    store.contains guid = true

/-- Why the body does not run. Each reason stands back behind those before it, and among the slots
the one counts whose name has the earliest bytes. -/
inductive Refusal (engine : Engine) (store : Store) (text : String) : EngineError → Prop where
  | malformed {reason : String}
      (fails : Descriptor.parse text = .error (.invalidDescriptor reason)) :
      Refusal engine store text (.invalidDescriptor reason)
  | unregistered {descriptor : Descriptor} (parses : Descriptor.parse text = .ok descriptor)
      (unknown : ∀ name, descriptor.className = Descriptor.classSpace ++ name →
        name = "" ∨ engine.registry.contains name = false) :
      Refusal engine store text (.unsupportedOperation descriptor.className)
  | unsafeOutput {descriptor : Descriptor} {name : String} {guid : Guid}
      (asks : engine.Asks text descriptor)
      (first : FirstViolation (fun _ guid => guid.isSafe = true) descriptor.outputs name guid) :
      Refusal engine store text (.invalidGuid guid)
  | absentInput {descriptor : Descriptor} {name : String} {guid : Guid}
      (asks : engine.Asks text descriptor) (outputs : SafeOutputs descriptor)
      (first : FirstViolation (fun _ guid => store.contains guid = true) descriptor.inputs name
        guid) :
      Refusal engine store text (.entityNotFound guid)

theorem check_cases (guid : Guid) :
    (guid.isSafe = true ∧ ∃ passed, guid.check = .ok passed) ∨
      (¬ guid.isSafe = true ∧ guid.check = .error (.invalidGuid guid)) := by
  unfold Guid.check
  cases guid.isSafe <;> simp

theorem bindInput_cases (store : Store) (slot : String × Guid) :
    (store.contains slot.2 = true ∧ ∃ bound, bindInput store slot = .ok bound) ∨
      (¬ store.contains slot.2 = true ∧
        bindInput store slot = .error (.entityNotFound slot.2)) := by
  rw [bindInput, Store.get?, Store.contains, Std.ExtTreeMap.contains_eq_isSome_getElem?]
  cases store.memory[slot.2]? <;> simp

theorem forM_check_eq_error {slots : Slots} : slots.values.forM Guid.check = .error error ↔
    ∃ name guid, error = .invalidGuid guid ∧
      FirstViolation (fun _ guid => guid.isSafe = true) slots name guid := by
  rw [Result.forM_eq_error, Maps.values_eq_map_snd, Result.firstFailure_map]
  exact Maps.firstFailure_iff_firstViolation fun _ => check_cases

theorem mapM_bindInput_eq_error {slots : Slots} :
    slots.toList.mapM (bindInput store) = .error error ↔
      ∃ name guid, error = .entityNotFound guid ∧
        FirstViolation (fun _ guid => store.contains guid = true) slots name guid := by
  rw [Result.mapM_eq_error]
  exact Maps.firstFailure_iff_firstViolation fun name guid => bindInput_cases store (name, guid)

theorem forM_check_eq_ok : descriptor.outputs.values.forM Guid.check = .ok () ↔
    SafeOutputs descriptor := by
  rw [Result.forM_eq_ok]
  constructor
  · exact fun checked => ⟨fun bound => check_eq_ok.mp (checked _ (Maps.mem_values.mpr ⟨_, bound⟩))⟩
  · intro outputs guid listed
    obtain ⟨_, bound⟩ := Maps.mem_values.mp listed
    exact check_eq_ok.mpr (outputs.safe bound)

theorem Asks.operation (asks : engine.Asks text descriptor) :
    ∃ body, engine.operation? descriptor = some body :=
  Option.isSome_iff_exists.mp (operation?_isSome.mpr asks.registered)

theorem operation?_eq_none : engine.operation? descriptor = none ↔
    ∀ name, descriptor.className = Descriptor.classSpace ++ name →
      name = "" ∨ engine.registry.contains name = false := by
  rw [← Option.not_isSome_iff_eq_none, operation?_isSome, not_exists]
  refine forall_congr' fun name => ?_
  rw [not_and, not_and, Bool.not_eq_true]
  exact forall_congr' fun _ => or_iff_not_imp_left.symm

theorem prepare_eq_error : engine.prepare store text = .error error ↔
    engine.Refusal store text error := by
  constructor
  · intro h
    rcases Result.bind_eq_error.mp h with malformed | ⟨descriptor, parses, h⟩
    · obtain ⟨reason, rfl⟩ := parse_error malformed
      exact .malformed malformed
    · cases operation : engine.operation? descriptor with
      | none =>
          rw [operation] at h
          cases h
          exact .unregistered parses (operation?_eq_none.mp operation)
      | some body =>
          have asks : engine.Asks text descriptor :=
            ⟨parses, operation?_isSome.mp (by rw [operation]; rfl)⟩
          rw [operation] at h
          rcases Result.bind_eq_error.mp h with unsafeOutput | ⟨_, checked, h⟩
          · obtain ⟨name, guid, rfl, first⟩ := forM_check_eq_error.mp unsafeOutput
            exact .unsafeOutput asks first
          · rcases Result.bind_eq_error.mp h with absent | ⟨_, _, returned⟩
            · obtain ⟨name, guid, rfl, first⟩ := mapM_bindInput_eq_error.mp absent
              exact .absentInput asks (forM_check_eq_ok.mp checked) first
            · cases returned
  · intro refusal
    cases refusal with
    | malformed fails => exact prepare_of_parse_error fails
    | unregistered parses unknown =>
        exact prepare_of_operation?_none parses (operation?_eq_none.mpr unknown)
    | unsafeOutput asks first =>
        obtain ⟨body, operation⟩ := asks.operation
        have refused := forM_check_eq_error.mpr ⟨_, _, rfl, first⟩
        simp only [prepare, asks.parses, operation, refused, bind, Except.bind]
    | absentInput asks outputs first =>
        obtain ⟨body, operation⟩ := asks.operation
        have refused := mapM_bindInput_eq_error.mpr ⟨_, _, rfl, first⟩
        simp only [prepare, asks.parses, operation, forM_check_eq_ok.mpr outputs, refused, bind,
          Except.bind]

theorem Admits.passes (admits : engine.Admits store text body session) :
    engine.Passes store text session.descriptor := by
  refine ⟨⟨admits.parses, operation?_isSome.mp (by rw [admits.operation]; rfl)⟩, ⟨admits.safe⟩,
    fun bound => ?_⟩
  rw [Store.contains, Std.ExtTreeMap.contains_eq_isSome_getElem?]
  exact admits.resident bound

theorem Passes.not_refusal (passes : engine.Passes store text descriptor) :
    ¬ engine.Refusal store text error := by
  intro refusal
  have same {descriptor' : Descriptor} (parses : Descriptor.parse text = .ok descriptor') :
      descriptor' = descriptor :=
    Except.ok.inj (parses.symm.trans passes.asks.parses)
  cases refusal with
  | malformed fails => cases fails.symm.trans passes.asks.parses
  | unregistered parses unknown =>
      cases same parses
      obtain ⟨body, operation⟩ := passes.asks.operation
      cases operation.symm.trans (operation?_eq_none.mpr unknown)
  | unsafeOutput asks first =>
      cases same asks.parses
      exact first.violates (passes.outputs.safe first.bound)
  | absentInput asks outputs first =>
      cases same asks.parses
      exact first.violates (passes.resident first.bound)

theorem exists_prepare_iff_passes :
    (∃ body session, engine.prepare store text = .ok (body, session)) ↔
      ∃ descriptor, engine.Passes store text descriptor := by
  constructor
  · rintro ⟨body, session, prepared⟩
    exact ⟨_, (admits_of_prepare prepared).passes⟩
  · rintro ⟨descriptor, passes⟩
    cases prepared : engine.prepare store text with
    | error error => exact absurd (prepare_eq_error.mp prepared) passes.not_refusal
    | ok passed => exact ⟨passed.1, passed.2, rfl⟩

/-- The same operations can be asked for, whatever they do. -/
def SameNames (engine other : Engine) : Prop :=
  ∀ name, other.registry.contains name = engine.registry.contains name

theorem Refusal.elsewhere {elsewhere : Store} (refusal : engine.Refusal store text error)
    (names : SameNames engine other) (memory : elsewhere.memory = store.memory) :
    other.Refusal elsewhere text error := by
  have asks {descriptor : Descriptor} (asks : engine.Asks text descriptor) :
      other.Asks text descriptor := by
    obtain ⟨name, spelled, some, known⟩ := asks.registered
    exact ⟨asks.parses, name, spelled, some, (names name).trans known⟩
  cases refusal with
  | malformed fails => exact .malformed fails
  | unregistered parses unknown =>
      exact .unregistered parses fun name spelled => by rw [names]; exact unknown name spelled
  | unsafeOutput asked first => exact .unsafeOutput (asks asked) first
  | absentInput asked outputs first =>
      have same : elsewhere.contains = store.contains := by
        funext guid
        rw [Store.contains, memory, Store.contains]
      exact .absentInput (asks asked) outputs (by rwa [same])

theorem Refusal.compute (refusal : engine.Refusal store text error) :
    engine.compute store text = ⟨.error error, [], store⟩ := by
  simp only [Engine.compute, prepare_eq_error.mpr refusal]

theorem Refusal.exchanges (refusal : engine.Refusal store text error) :
    engine.exchanges store text = [] := by
  simp only [Engine.exchanges, prepare_eq_error.mpr refusal]

/-- The body has run in the session. What passed between the two adds up to where the run has come,
and the rest of the computation follows from how it ended. -/
structure Ran (engine : Engine) (store : Store) (text : String) (body : Program Unit)
    (session : Session) : Prop where
  admits : engine.Admits store text body session
  exchanges : engine.exchanges store text = session.exchanges body ⟨∅, store.files, []⟩
  progress : (engine.exchanges store text).foldl session.after ⟨∅, store.files, []⟩ =
    (session.run body ⟨∅, store.files, []⟩).2
  result : (engine.compute store text).result =
    ((session.run body ⟨∅, store.files, []⟩).1.bind fun () =>
      finish session.descriptor.outputs (session.run body ⟨∅, store.files, []⟩).2.outputs).map
        fun bound => bound.filter fun output => ! output.2.isScalar
  remarks : (engine.compute store text).remarks =
    (session.run body ⟨∅, store.files, []⟩).2.remarks.reverse
  files : (engine.compute store text).store.files =
    (session.run body ⟨∅, store.files, []⟩).2.files

theorem ran_of_prepare (h : engine.prepare store text = .ok (body, session)) :
    engine.Ran store text body session := by
  have exchanges : engine.exchanges store text = session.exchanges body ⟨∅, store.files, []⟩ := by
    rw [Engine.exchanges, h]
  refine ⟨admits_of_prepare h, exchanges, by rw [exchanges, Session.run_snd], ?_, ?_, ?_⟩ <;>
    simp only [Engine.compute, h] <;>
    split <;> next ended => simp only [ended, Except.map, Store.putAll]

/-- The body runs just in case the text asks for a registered operation, all output guids are safe
and all inputs are in memory. Otherwise the first of these that fails is the error, nothing has
passed between the body and its session, and the store is as it was. It would have been the same
with other bodies, another helper and other files, even if a missing input were among them. -/
theorem body_is_gated (engine : Engine) (store : Store) (text : String) :
    ((∃ body session, engine.Ran store text body session) ↔
      ∃ descriptor, engine.Passes store text descriptor) ∧
    ((¬ ∃ descriptor, engine.Passes store text descriptor) →
      ∃ error, (∀ other, engine.Refusal store text other ↔ other = error) ∧
        engine.exchanges store text = [] ∧
        engine.compute store text = ⟨.error error, [], store⟩ ∧
        ∀ (other : Engine) (elsewhere : Store), SameNames engine other →
          elsewhere.memory = store.memory →
            other.exchanges elsewhere text = [] ∧
              other.compute elsewhere text = ⟨.error error, [], elsewhere⟩) := by
  constructor
  · constructor
    · rintro ⟨body, session, ran⟩
      exact ⟨session.descriptor, ran.admits.passes⟩
    · intro passes
      obtain ⟨body, session, prepared⟩ := exists_prepare_iff_passes.mpr passes
      exact ⟨body, session, ran_of_prepare prepared⟩
  · intro stopped
    cases prepared : engine.prepare store text with
    | ok passed => exact absurd (exists_prepare_iff_passes.mp ⟨_, _, prepared⟩) stopped
    | error error =>
        have refusal := prepare_eq_error.mp prepared
        refine ⟨error, fun other => ⟨fun also => ?_, ?_⟩, refusal.exchanges, refusal.compute,
          fun other elsewhere names memory => ?_⟩
        · exact Except.error.inj ((prepare_eq_error.mpr also).symm.trans prepared)
        · rintro rfl
          exact refusal
        · have also := refusal.elsewhere names memory
          exact ⟨also.exchanges, also.compute⟩

end GraphEngine.Engine
