import GraphEngine.Http.Server
import GraphEngine.Proofs.Engine.Compute
import GraphEngine.Proofs.Registry
import GraphEngine.Proofs.Session.Errors

/-!
What the question in advance says of a computation.

Whether a text can be computed is answered without running anything, and the answer shows in how
the computation ends: two kinds of errors come from the text alone, and no later stage has them.
-/
namespace GraphEngine

namespace Affix

theorem after?_eq_some_iff {beginning text rest : String} :
    after? beginning text = some rest ↔ text = beginning ++ rest := by
  unfold after?
  constructor
  · intro h
    split at h
    · next isPrefix =>
        obtain ⟨back, whole⟩ := List.isPrefixOf_iff_prefix.mp isPrefix
        rw [← whole, ← String.length_toList, List.drop_left, Option.some.injEq] at h
        rw [← h, ← String.toList_inj, String.toList_append, String.toList_ofList, whole]
    · cases h
  · rintro rfl
    rw [if_pos (List.isPrefixOf_iff_prefix.mpr ⟨rest.toList, by rw [String.toList_append]⟩),
      String.toList_append, ← String.length_toList, List.drop_left, String.ofList_toList]

end Affix

/-- The operations leave the refusal of texts to the gate. -/
def Registry.NeverRefuses (registry : Registry) : Prop :=
  ∀ name body, registry.get? name = some body → body.NeverRefuses

namespace Engine

variable {engine : Engine} {store : Store} {text : String} {error : EngineError}
  {descriptor : Descriptor}

theorem parse_error (h : Descriptor.parse text = .error error) :
    ∃ reason, error = .invalidDescriptor reason := by
  unfold Descriptor.parse at h
  split at h
  · cases h
  · cases h
    exact ⟨_, rfl⟩

theorem operation?_isSome : (engine.operation? descriptor).isSome = true ↔
    ∃ name, descriptor.className = Descriptor.classSpace ++ name ∧ name ≠ "" ∧
      engine.registry.contains name = true := by
  have named (name : String) : descriptor.operationName? = some name ↔
      descriptor.className = Descriptor.classSpace ++ name ∧ name ≠ "" := by
    simp [Descriptor.operationName?, Option.filter_eq_some_iff, Affix.after?_eq_some_iff]
  constructor
  · intro found
    obtain ⟨body, found⟩ := Option.isSome_iff_exists.mp found
    obtain ⟨name, isName, operation⟩ := Option.bind_eq_some_iff.mp found
    obtain ⟨spelled, some⟩ := (named name).mp isName
    exact ⟨name, spelled, some, by rw [← Registry.isSome_get?, operation]; rfl⟩
  · rintro ⟨name, spelled, some, known⟩
    rw [operation?, (named name).mpr ⟨spelled, some⟩, Option.bind_some, Registry.isSome_get?, known]

theorem prepare_of_parse_error (h : Descriptor.parse text = .error error) :
    engine.prepare store text = .error error :=
  Result.bind_eq_error.mpr (.inl h)

theorem prepare_of_operation?_none (parses : Descriptor.parse text = .ok descriptor)
    (unknown : engine.operation? descriptor = none) :
    engine.prepare store text = .error (.unsupportedOperation descriptor.className) := by
  simp only [prepare, parses, unknown, bind, Except.bind]

theorem prepare_error (parses : Descriptor.parse text = .ok descriptor)
    (known : (engine.operation? descriptor).isSome = true)
    (h : engine.prepare store text = .error error) : ¬ error.RefusesText := by
  obtain ⟨body, operation⟩ := Option.isSome_iff_exists.mp known
  simp only [prepare, parses, operation, bind, Except.bind] at h
  rcases Result.bind_eq_error.mp h with unsafeOutput | ⟨_, _, h⟩
  · obtain ⟨guid, _, fails⟩ := Result.exists_of_forM unsafeOutput
    unfold Guid.check at fails
    split at fails
    · cases fails
    · cases fails
      exact not_false
  · rcases Result.bind_eq_error.mp h with absent | ⟨_, _, returned⟩
    · obtain ⟨slot, _, fails⟩ := Result.exists_of_mapM absent
      unfold bindInput at fails
      split at fails
      · cases fails
      · cases fails
        exact not_false
    · cases returned

theorem deriveIdSets_error {slots : Slots} {outputs : Outputs}
    (h : deriveIdSets slots outputs = .error error) : ¬ error.RefusesText := by
  obtain ⟨bundle, _, _, _, rfl⟩ := refused_of_deriveIdSets h
  unfold refusal
  split <;> exact not_false

theorem finish_error {slots : Slots} {outputs : Outputs}
    (h : finish slots outputs = .error error) : ¬ error.RefusesText := by
  unfold finish at h
  rcases Result.bind_eq_error.mp h with derivation | ⟨derived, _, h⟩
  · exact deriveIdSets_error derivation
  · rcases Result.bind_eq_error.mp h with invalid | ⟨_, _, returned⟩
    · obtain ⟨output, _, fails⟩ := Result.exists_of_forM invalid
      obtain ⟨_, _, rfl⟩ := Entity.validate_error fails
      exact not_false
    · cases returned

theorem compute_of_prepare_error (h : engine.prepare store text = .error error) :
    (engine.compute store text).result = .error error := by
  simp only [compute, h]

/-- Past the gate neither the body nor what is done with its outputs refuses the text. -/
theorem compute_error (own : engine.registry.NeverRefuses)
    (parses : Descriptor.parse text = .ok descriptor)
    (known : (engine.operation? descriptor).isSome = true)
    (h : (engine.compute store text).result = .error error) : ¬ error.RefusesText := by
  unfold compute at h
  split at h
  · next stopped =>
      cases h
      exact prepare_error parses known stopped
  · next body session prepared =>
      dsimp only at h
      split at h
      · next stopped =>
          cases h
          rcases Result.bind_eq_error.mp stopped with ends | ⟨_, _, unfinished⟩
          · -- The body is registered under some name, for it has passed the gate.
            obtain ⟨name, _, registered⟩ :=
              Option.bind_eq_some_iff.mp (admits_of_prepare prepared).operation
            exact Program.neverRefuses_iff_accepts.mp (own name body registered) _ _ _ ends
          · exact finish_error unfinished
      · cases h

/-- The answer in advance, and how the computation of the same text ends. -/
structure Foretells (engine : Engine) (store : Store) (text : String) : Prop where
  malformed : ∀ error, engine.canCompute text = .error error ↔
    (engine.compute store text).result = .error error ∧ ∃ reason, error = .invalidDescriptor reason
  unsupported : engine.canCompute text = .ok false ↔
    ∃ name, (engine.compute store text).result = .error (.unsupportedOperation name)
  named : ∀ name, (engine.compute store text).result = .error (.unsupportedOperation name) →
    ∃ descriptor, Descriptor.parse text = .ok descriptor ∧ name = descriptor.className
  supported : engine.canCompute text = .ok true ↔
    ∀ error, (engine.compute store text).result = .error error → ¬ error.RefusesText
  registered : engine.canCompute text = .ok true ↔
    ∃ descriptor name, Descriptor.parse text = .ok descriptor ∧
      descriptor.className = Descriptor.classSpace ++ name ∧ name ≠ "" ∧
        engine.registry.contains name = true

theorem foretells_of_parse_error (h : Descriptor.parse text = .error error) :
    engine.Foretells store text := by
  obtain ⟨reason, rfl⟩ := parse_error h
  have asked : engine.canCompute text = .error (.invalidDescriptor reason) :=
    Result.bind_eq_error.mpr (.inl h)
  have computed : (engine.compute store text).result = .error (.invalidDescriptor reason) :=
    compute_of_prepare_error (prepare_of_parse_error h)
  constructor <;> simp [asked, computed, h, EngineError.RefusesText]

theorem foretells_of_unknown (parses : Descriptor.parse text = .ok descriptor)
    (unknown : engine.operation? descriptor = none) : engine.Foretells store text := by
  have asked : engine.canCompute text = .ok false := by
    simp [canCompute, parses, unknown, bind, Except.bind, pure, Except.pure]
  have computed : (engine.compute store text).result
      = .error (.unsupportedOperation descriptor.className) :=
    compute_of_prepare_error (prepare_of_operation?_none parses unknown)
  have unregistered := Option.not_isSome_iff_eq_none.mpr unknown
  rw [operation?_isSome] at unregistered
  constructor
  · simp [asked, computed]
  · simp [asked, computed]
  · rw [computed]
    rintro _ ⟨⟩
    exact ⟨descriptor, parses, rfl⟩
  · simp [asked, computed, EngineError.RefusesText]
  · rw [asked, parses]
    simp only [Except.ok.injEq, Bool.false_eq_true, false_iff]
    rintro ⟨_, name, rfl, found⟩
    exact unregistered ⟨name, found⟩

theorem foretells_of_known (own : engine.registry.NeverRefuses)
    (parses : Descriptor.parse text = .ok descriptor)
    (known : (engine.operation? descriptor).isSome = true) : engine.Foretells store text := by
  have asked : engine.canCompute text = .ok true := by
    simp [canCompute, parses, known, bind, Except.bind, pure, Except.pure]
  have plain : ∀ error, (engine.compute store text).result = .error error → ¬ error.RefusesText :=
    fun error => compute_error own parses known
  constructor
  · intro error
    simp only [asked, reduceCtorEq, false_iff]
    rintro ⟨computed, reason, rfl⟩
    exact plain _ computed trivial
  · simp only [asked, Except.ok.injEq, Bool.true_eq_false, false_iff]
    rintro ⟨name, computed⟩
    exact plain _ computed trivial
  · intro name computed
    exact absurd trivial (plain _ computed)
  · exact ⟨fun _ => plain, fun _ => asked⟩
  · obtain ⟨name, found⟩ := operation?_isSome.mp known
    exact ⟨fun _ => ⟨descriptor, name, parses, found⟩, fun _ => asked⟩

theorem store_of_asked {server : Http.Server} {request : Http.Request}
    (asks : Http.Route.ofPath? request.path = some .canCompute) :
    (server.respond store request).store = store := by
  unfold Http.Server.respond
  split
  · unfold Http.Server.dispatch
    rw [asks]
    dsimp only
    split
    · rfl
    · have kept : (server.serve store .canCompute request).store = store := by
        unfold Http.Server.serve
        dsimp only
        split <;> rfl
      split <;> exact kept
  · rfl

/-- The answer in advance shows in the outcome of the computation, and asking changes nothing. Those
operations that every engine offers meet what is asked of a registry. -/
theorem canCompute_foretells (engine : Engine) (store : Store) (text : String)
    (own : engine.registry.NeverRefuses) :
    engine.Foretells store text ∧
    (∀ key request, Http.Route.ofPath? request.path = some .canCompute →
      (Http.Server.respond ⟨engine, key⟩ store request).store = store) ∧
    ∀ command, ∀ operation ∈ Registry.builtIn command, operation.2.NeverRefuses := by
  refine ⟨?_, fun _ _ => store_of_asked, fun command operation listed =>
    Program.neverRefuses_iff_accepts.mpr (Registry.accepts_builtIn command operation listed)⟩
  cases parses : Descriptor.parse text with
  | error error => exact foretells_of_parse_error parses
  | ok descriptor =>
      cases operation : engine.operation? descriptor with
      | none => exact foretells_of_unknown parses operation
      | some body => exact foretells_of_known own parses (by rw [operation]; rfl)

/-- An operation without a name can be registered, and no class name asks for it. -/
def withNameless : Engine where
  registry := ⟨.ofList [("", Operation.ExampleGraph.body)]⟩
  helper := fun files _ => (.finished 0 [] [], files)

def classSpaceAlone : String :=
  "\x7b\"Operation\":\x7b\"Class\":\"com.lynxanalytics.biggraph.graph_operations.\"\x7d\x7d"

theorem canCompute_foretells_classSpaceAlone :
    withNameless.registry.NeverRefuses ∧ withNameless.registry.contains "" = true ∧
      withNameless.canCompute classSpaceAlone = .ok false ∧
      ∃ name, (withNameless.compute .overTwoAreas classSpaceAlone).result
        = .error (.unsupportedOperation name) := by
  have own : withNameless.registry.NeverRefuses := by
    intro name body found
    obtain ⟨⟩ : (name, body) = ("", Operation.ExampleGraph.body) := by
      have listed := Std.ExtTreeMap.mem_toList_iff_getElem?_eq_some.mpr found
      exact List.mem_singleton.mp listed
    exact Program.neverRefuses_iff_accepts.mpr (Program.accepts_handOver _)
  have asked : withNameless.canCompute classSpaceAlone = .ok false := by decide +kernel
  have foretells := (canCompute_foretells withNameless .overTwoAreas classSpaceAlone own).1
  exact ⟨own, by decide, asked, foretells.unsupported.mp asked⟩

end Engine
end GraphEngine
