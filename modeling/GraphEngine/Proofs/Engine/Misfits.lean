import GraphEngine.Proofs.Engine.Refusals
import GraphEngine.Proofs.Registry
import GraphEngine.Proofs.Session.Kinds
import GraphEngine.Proofs.Store.Opening

/-!
Inputs of another kind than an operation is meant for.

An operation that looks at the kind of an input does so before it stages anything or runs a helper.
So a computation over a misfit ends with its guid and its kind, and leaves everything as it was. The
only input that is passed on without such a look is the edges of the embeddings.
-/
namespace GraphEngine

/-- The inputs that the operations are meant for, each with its kind. -/
def Registry.inputKinds : String → List (String × Kind)
  | "OneHotEncoder" => [("catAttr", .stringAttribute)]
  | "OutDegree" => [("src", .vertexSet), ("es", .edgeBundle)]
  | "Node2Vec" => [("vs", .vertexSet), ("es", .edgeBundle)]
  | _ => []

/-- Those of the inputs whose kind is looked at. -/
def Registry.checkedKinds (name : String) : List (String × Kind) :=
  (inputKinds name).filter fun slot => (name, slot.1) ≠ ("Node2Vec", "es")

theorem Registry.insists_builtIn (command : List String) :
    ∀ operation ∈ builtIn command, operation.2.Insists (checkedKinds operation.1) := by
  simp only [builtIn, List.forall_mem_cons]
  exact ⟨.nil _, Program.insists_oneHotEncoder, Program.insists_outDegree,
    Program.insists_node2Vec command, by simp⟩

theorem Registry.exists_builtIn {name : String} {slot : String × Kind}
    (listed : slot ∈ inputKinds name) (command : List String) :
    ∃ body, (name, body) ∈ builtIn command := by
  unfold inputKinds at listed
  split at listed
  · exact ⟨Operation.OneHotEncoder.body, by simp [builtIn]⟩
  · exact ⟨Operation.OutDegree.body, by simp [builtIn]⟩
  · exact ⟨Operation.Node2Vec.body command, by simp [builtIn]⟩
  · cases listed

namespace Engine

variable {engine : Engine} {store : Store} {text name : String} {descriptor : Descriptor}
  {body : Program Unit} {session : Session} {error : EngineError}

/-- The slot is bound to an entity of another kind than it is meant for. -/
structure Misfit (store : Store) (descriptor : Descriptor) (slot : String × Kind) (guid : Guid)
    (entity : Entity) : Prop where
  bound : descriptor.inputs[slot.1]? = some guid
  held : store.get? guid = some entity
  other : entity.kind ≠ slot.2

/-- Every input of the descriptor is in memory. -/
def AllResident (store : Store) (descriptor : Descriptor) : Prop :=
  ∀ (name : String) (guid : Guid), descriptor.inputs[name]? = some guid →
    store.contains guid = true

/-- A body that fails without having done anything leaves nothing behind. -/
theorem compute_of_run_error (prepared : engine.prepare store text = .ok (body, session))
    (ends : session.run body ⟨∅, store.files, []⟩ = (.error error, ⟨∅, store.files, []⟩)) :
    engine.compute store text = ⟨.error error, [], store⟩ := by
  simp only [compute, prepared, ends]
  rfl

/-- Past the gate the first misfit is the error. -/
theorem misfit_of_prepare {slots : List (String × Kind)} (insists : body.Insists slots)
    (prepared : engine.prepare store text = .ok (body, session))
    (bound : ∀ slot ∈ slots, ∃ guid entity,
      session.descriptor.inputs[slot.1]? = some guid ∧ store.get? guid = some entity)
    {slot : String × Kind} (listed : slot ∈ slots) {guid : Guid} {entity : Entity}
    (misfit : Misfit store session.descriptor slot guid entity) :
    ∃ slot ∈ slots, ∃ guid entity, Misfit store session.descriptor slot guid entity ∧
      engine.compute store text = ⟨.error (.wrongKind guid slot.2 entity.kind), [], store⟩ ∧
      ∀ exchange ∈ engine.exchanges store text, exchange.1.IsUnaided := by
  have admits := admits_of_prepare prepared
  have boundInSession : ∀ slot ∈ slots, ∃ guid entity,
      session.inputs[slot.1]? = some (guid, entity) := by
    intro slot listed
    obtain ⟨guid, entity, named, held⟩ := bound slot listed
    exact ⟨guid, entity, admits.inputs.mpr ⟨named, held⟩⟩
  obtain ⟨error, first⟩ := Session.exists_firstMisfit boundInSession listed
    (admits.inputs.mpr ⟨misfit.bound, misfit.held⟩) misfit.other
  obtain ⟨ends, unaided⟩ := insists session ⟨∅, store.files, []⟩ error first
  obtain ⟨slot, listed, guid, entity, found, other, rfl⟩ := first.exists_slot
  obtain ⟨named, held⟩ := admits.inputs.mp found
  refine ⟨slot, listed, guid, entity, ⟨named, held, other⟩, compute_of_run_error prepared ends, ?_⟩
  simpa only [exchanges, prepared] using unaided

/-- Where text and outputs are as they should be, only a missing input keeps the body from
running. -/
theorem prepare_cases (store : Store) (parses : Descriptor.parse text = .ok descriptor)
    (operation : engine.operation? descriptor = some body) (outputs : SafeOutputs descriptor) :
    (∃ session, session.descriptor = descriptor ∧
        engine.prepare store text = .ok (body, session)) ∨
      ∃ (name : String) (guid : Guid), descriptor.inputs[name]? = some guid ∧
        store.contains guid = false ∧ engine.Refusal store text (.entityNotFound guid) := by
  have same {other : Descriptor} (alsoParses : Descriptor.parse text = .ok other) :
      other = descriptor := Except.ok.inj (alsoParses.symm.trans parses)
  cases prepared : engine.prepare store text with
  | ok passed =>
      obtain ⟨found, session⟩ := passed
      have admits := admits_of_prepare prepared
      have described := same admits.parses
      have isBody := admits.operation
      rw [described, operation] at isBody
      cases isBody
      exact .inl ⟨session, described, rfl⟩
  | error error =>
      have refusal := prepare_eq_error.mp prepared
      cases refusal with
      | malformed fails => cases fails.symm.trans parses
      | unregistered alsoParses unknown =>
          cases same alsoParses
          cases operation.symm.trans (operation?_eq_none.mpr unknown)
      | unsafeOutput asks first =>
          cases same asks.parses
          exact absurd (outputs.safe first.bound) first.violates
      | absentInput asks safe first =>
          cases same asks.parses
          exact .inr ⟨_, _, first.bound, Bool.eq_false_iff.mpr first.violates,
            .absentInput asks safe first⟩

/-- A computation over a misfit, other than the edges of the embeddings, fails before anything is
staged or a helper is run, and changes neither memory nor files. The error tells the guid of such a
misfit, its kind and the kind that is expected, unless the body is not even begun because one more
input is missing. -/
theorem misfit_refused (engine : Engine) (store : Store) {command : List String}
    (offers : Registry.standard command = .ok engine.registry)
    (parses : Descriptor.parse text = .ok descriptor)
    (asks : descriptor.operationName? = some name) (outputs : SafeOutputs descriptor)
    (bound : ∀ slot ∈ Registry.inputKinds name, ∃ guid entity,
      descriptor.inputs[slot.1]? = some guid ∧ store.get? guid = some entity)
    (misfit : ∃ slot ∈ Registry.inputKinds name, (name, slot.1) ≠ ("Node2Vec", "es") ∧
      ∃ guid entity, Misfit store descriptor slot guid entity) :
    ∃ error, engine.compute store text = ⟨.error error, [], store⟩ ∧
      (∀ exchange ∈ engine.exchanges store text, exchange.1.IsUnaided) ∧
      (AllResident store descriptor →
        ∃ slot ∈ Registry.inputKinds name, ∃ guid entity,
          Misfit store descriptor slot guid entity ∧
            error = .typeMismatch guid slot.2 entity.kind.name) ∧
      (¬ AllResident store descriptor →
        ∃ (other : String) (guid : Guid), descriptor.inputs[other]? = some guid ∧
          store.contains guid = false ∧ error = .entityNotFound guid) := by
  obtain ⟨slot, listed, looked, guid, entity, misfit⟩ := misfit
  obtain ⟨body, isBuiltIn⟩ := Registry.exists_builtIn listed command
  have operation : engine.operation? descriptor = some body := by
    rw [operation?, asks, Option.bind_some]
    exact Registry.get?_of_standard offers _ isBuiltIn
  have insists : body.Insists (Registry.checkedKinds name) :=
    Registry.insists_builtIn command _ isBuiltIn
  rcases prepare_cases store parses operation outputs with
    ⟨session, rfl, prepared⟩ | ⟨other, absent, named, missing, refusal⟩
  · have resident : AllResident store session.descriptor :=
      fun _ _ => (admits_of_prepare prepared).passes.resident
    have isChecked : slot ∈ Registry.checkedKinds name :=
      List.mem_filter.mpr ⟨listed, decide_eq_true looked⟩
    obtain ⟨slot, listed, guid, entity, misfit, computed, unaided⟩ := misfit_of_prepare insists
      prepared (fun slot listed => bound slot (List.mem_of_mem_filter listed)) isChecked misfit
    exact ⟨_, computed, unaided,
      fun _ => ⟨slot, List.mem_of_mem_filter listed, guid, entity, misfit, rfl⟩,
      fun absent => absurd resident absent⟩
  · have absentResident : ¬ AllResident store descriptor := by
      intro resident
      cases missing.symm.trans (resident other absent named)
    refine ⟨_, refusal.compute, ?_, fun resident => absurd resident absentResident,
      fun _ => ⟨other, absent, named, missing, rfl⟩⟩
    rw [refusal.exchanges]
    exact fun _ passed => absurd passed List.not_mem_nil

def withHelper : Engine where
  registry := (Registry.standard ["helper"]).toOption.getD .empty
  helper := fun files _ => (.finished 0 (Utf8.encode "\x7b\x7d") [], files)

theorem offers_withHelper : Registry.standard ["helper"] = .ok withHelper.registry :=
  Registry.standard_eq_ok ["helper"]

def verticesAndScalar : Store :=
  (Store.overTwoAreas.put ⟨"v"⟩ (.vertexSet ⟨[5, 7]⟩)).put ⟨"s"⟩ (.scalar (.string "no edges"))

/-- A descriptor without outputs, with these inputs and one iteration. -/
def asking (name : String) (inputs : List (String × Guid)) : String :=
  (inputs.foldl (fun descriptor input => descriptor.withInput input.1 input.2)
    ((Descriptor.ofName name).withParameter "iterations" (.ofNat 1))).json

/-- Whether it is understood as it is meant, with the inputs in the order of their names. -/
def isAsked (name : String) (inputs : List (String × Guid)) : Bool :=
  match Descriptor.parse (asking name inputs) with
  | .ok descriptor =>
      descriptor.operationName? = some name && descriptor.inputs.toList = inputs &&
        descriptor.outputs.isEmpty && descriptor.parameter? "iterations" = some (.ofNat 1)
  | .error _ => false

theorem exists_asked {inputs : List (String × Guid)} (h : isAsked name inputs = true) :
    ∃ descriptor, Descriptor.parse (asking name inputs) = .ok descriptor ∧
      descriptor.operationName? = some name ∧ SafeOutputs descriptor ∧
      (∀ slot guid, descriptor.inputs[(slot : String)]? = some guid ↔ (slot, guid) ∈ inputs) ∧
      descriptor.parameter? "iterations" = some (.ofNat 1) := by
  unfold isAsked at h
  split at h
  · next descriptor parses =>
      simp only [Bool.and_eq_true, decide_eq_true_eq] at h
      obtain ⟨⟨⟨named, bound⟩, noOutputs⟩, iterations⟩ := h
      refine ⟨descriptor, parses, named, ⟨fun found => ?_⟩, fun slot guid => ?_, iterations⟩
      · rw [Std.ExtTreeMap.isEmpty_iff.mp noOutputs, Std.ExtTreeMap.getElem?_empty] at found
        cases found
      · rw [← bound, Std.ExtTreeMap.mem_toList_iff_getElem?_eq_some]
  · cases h

theorem misfit_refused_verticesAsEdges :
    ∃ descriptor, Descriptor.parse (asking "OutDegree" [("es", ⟨"v"⟩), ("src", ⟨"v"⟩)])
        = .ok descriptor ∧
      AllResident verticesAndScalar descriptor ∧
      Misfit verticesAndScalar descriptor ("es", .edgeBundle) ⟨"v"⟩ (.vertexSet ⟨[5, 7]⟩) ∧
      withHelper.compute verticesAndScalar (asking "OutDegree" [("es", ⟨"v"⟩), ("src", ⟨"v"⟩)])
        = ⟨.error (.typeMismatch ⟨"v"⟩ .edgeBundle "VertexSet"), [], verticesAndScalar⟩ := by
  obtain ⟨descriptor, parses, asks, outputs, inputs, _⟩ := exists_asked
    (show isAsked "OutDegree" [("es", ⟨"v"⟩), ("src", ⟨"v"⟩)] = true by decide +kernel)
  have held : verticesAndScalar.get? ⟨"v"⟩ = some (.vertexSet ⟨[5, 7]⟩) := by decide +kernel
  have isVertices {slot : String} {guid : Guid} (named : descriptor.inputs[slot]? = some guid) :
      guid = ⟨"v"⟩ := by
    have listed := (inputs slot guid).mp named
    simp only [List.mem_cons, Prod.mk.injEq, List.not_mem_nil, or_false] at listed
    exact listed.elim And.right And.right
  have resident : AllResident verticesAndScalar descriptor := by
    intro slot guid named
    rw [isVertices named]
    decide +kernel
  have misfit : Misfit verticesAndScalar descriptor ("es", .edgeBundle) ⟨"v"⟩
      (.vertexSet ⟨[5, 7]⟩) := ⟨(inputs _ _).mpr (by decide), held, by decide⟩
  have bound : ∀ slot ∈ Registry.inputKinds "OutDegree", ∃ guid entity,
      descriptor.inputs[slot.1]? = some guid ∧ verticesAndScalar.get? guid = some entity := by
    intro slot listed
    refine ⟨⟨"v"⟩, _, (inputs _ _).mpr ?_, held⟩
    revert slot
    decide
  obtain ⟨error, computed, _, named, _⟩ := misfit_refused withHelper verticesAndScalar
    offers_withHelper parses asks outputs bound ⟨_, by decide, by decide, _, _, misfit⟩
  obtain ⟨slot, listed, guid, entity, found, rfl⟩ := named resident
  cases isVertices found.bound
  cases held.symm.trans found.held
  have onlyEdges : ∀ slot ∈ Registry.inputKinds "OutDegree",
      Kind.vertexSet ≠ slot.2 → slot = ("es", .edgeBundle) := by decide
  have isEdges := onlyEdges slot listed found.other
  rw [isEdges] at computed
  exact ⟨descriptor, parses, resident, misfit, computed⟩

/-- The commands that have been given to a helper. -/
def commands (exchanges : List Session.Exchange) : List (List String) :=
  exchanges.filterMap fun exchange =>
    match exchange.1 with
    | .runHelper command => some command
    | _ => none

theorem helper_run_over_scalar :
    ∃ descriptor, Descriptor.parse (asking "Node2Vec" [("es", ⟨"s"⟩), ("vs", ⟨"v"⟩)])
        = .ok descriptor ∧
      descriptor.operationName? = some "Node2Vec" ∧ SafeOutputs descriptor ∧
      descriptor.parameter? "iterations" = some (.ofNat 1) ∧
      (∀ slot ∈ Registry.inputKinds "Node2Vec", ∃ guid entity,
        descriptor.inputs[slot.1]? = some guid ∧ verticesAndScalar.get? guid = some entity) ∧
      Misfit verticesAndScalar descriptor ("es", .edgeBundle) ⟨"s"⟩
        (.scalar (.string "no edges")) ∧
      (withHelper.compute verticesAndScalar
        (asking "Node2Vec" [("es", ⟨"s"⟩), ("vs", ⟨"v"⟩)])).result = .ok [] ∧
      commands (withHelper.exchanges verticesAndScalar
          (asking "Node2Vec" [("es", ⟨"s"⟩), ("vs", ⟨"v"⟩)]))
        = [["helper", "2", "1", "128", "staging/s/data.json"]] ∧
      verticesAndScalar.files.isFile ["staging", "s", "data.json"] = false ∧
      (withHelper.compute verticesAndScalar
        (asking "Node2Vec" [("es", ⟨"s"⟩), ("vs", ⟨"v"⟩)])).store.files.isFile
          ["staging", "s", "data.json"] = true := by
  obtain ⟨descriptor, parses, asks, outputs, inputs, iterations⟩ := exists_asked
    (show isAsked "Node2Vec" [("es", ⟨"s"⟩), ("vs", ⟨"v"⟩)] = true by decide +kernel)
  have edges : verticesAndScalar.get? ⟨"s"⟩ = some (.scalar (.string "no edges")) := by
    decide +kernel
  have vertices : verticesAndScalar.get? ⟨"v"⟩ = some (.vertexSet ⟨[5, 7]⟩) := by decide +kernel
  have bound : ∀ slot ∈ Registry.inputKinds "Node2Vec", ∃ guid entity,
      descriptor.inputs[slot.1]? = some guid ∧ verticesAndScalar.get? guid = some entity := by
    have both : Registry.inputKinds "Node2Vec" = [("vs", .vertexSet), ("es", .edgeBundle)] := rfl
    rw [both, List.forall_mem_cons, List.forall_mem_singleton]
    exact ⟨⟨_, _, (inputs _ _).mpr (by decide), vertices⟩,
      ⟨_, _, (inputs _ _).mpr (by decide), edges⟩⟩
  exact ⟨descriptor, parses, asks, outputs, iterations, bound,
    ⟨(inputs _ _).mpr (by decide), edges, by decide⟩, by decide +kernel⟩

end Engine
end GraphEngine
