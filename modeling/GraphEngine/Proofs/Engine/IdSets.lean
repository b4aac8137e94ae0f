import GraphEngine.Proofs.Engine.Compute

/-!
The id sets of a computation.

Once the body has ended well, its outputs alone decide whether all id sets can be derived. They
are exactly those of the bundles handed over, or the computation fails and nothing is merged.
-/
namespace GraphEngine.Engine

variable {engine : Engine} {store : Store} {text : String} {body : Program Unit}
  {session : Session} {progress : Progress} {bundle : String}

/-- A bundle that passes the check has an identifier for each of its edges. -/
theorem size_idSet {edges : EdgeBundle} (valid : (Entity.edgeBundle edges).validate = .ok ()) :
    (Entity.vertexSet ⟨edges.externalIds⟩).size = (Entity.edgeBundle edges).size := by
  have sound : edges.fault? = none := by
    unfold Entity.validate at valid
    split at valid
    · cases valid
    · next found => exact found
  unfold EdgeBundle.fault? at sound
  split at sound
  · cases sound
  · next lengths => exact (not_or.mp lengths).2 |> Decidable.not_not.mp |>.symm

/-- What a computation that ends well merges has been derived, and is valid. -/
theorem merged_of_compute {persisted : List (Guid × Entity)} {derived : Outputs}
    (prepared : engine.prepare store text = .ok (body, session))
    (ran : session.run body ⟨∅, store.files, []⟩ = (.ok (), progress))
    (derives : deriveIdSets session.descriptor.outputs progress.outputs = .ok derived)
    (ends : (engine.compute store text).result = .ok persisted) :
    (∀ (name : String) (entity : Entity), derived[name]? = some entity → entity.validate = .ok ()) ∧
      (engine.compute store text).store.memory
        = store.memory.insertMany (bindOutputs session.descriptor.outputs derived) := by
  obtain ⟨session', progress', outputs, produces, valid, _, memory⟩ := compute_eq_ok ends
  obtain ⟨body', prepared', ran'⟩ := produces.runs
  cases prepared.symm.trans prepared'
  cases ran.symm.trans ran'
  cases derives.symm.trans produces.derives
  refine ⟨fun name entity stands => ?_, memory⟩
  have declared : name ∈ session.descriptor.outputs :=
    mem_slots_of_produces produces name (Maps.mem_iff_exists.mpr ⟨entity, stands⟩)
  obtain ⟨guid, bound⟩ := Maps.mem_iff_exists.mp declared
  refine valid (guid, entity) ?_
  rw [bindOutputs_eq]
  exact List.mem_map_of_mem (mem_boundSlots.mpr ⟨bound, stands⟩)

theorem result_of_refused {error : EngineError}
    (prepared : engine.prepare store text = .ok (body, session))
    (ran : session.run body ⟨∅, store.files, []⟩ = (.ok (), progress))
    (refuses : deriveIdSets session.descriptor.outputs progress.outputs = .error error) :
    (engine.compute store text).result = .error error := by
  have fails : finish session.descriptor.outputs progress.outputs = .error error :=
    Result.bind_eq_error.mpr (.inl refuses)
  simp only [compute, prepared, ran, Except.bind, fails]

/-- What the loop over the declared names comes to, whatever the body has handed over. -/
theorem idSets_of_compute (prepared : engine.prepare store text = .ok (body, session))
    (ran : session.run body ⟨∅, store.files, []⟩ = (.ok (), progress)) :
    ((∃ derived, deriveIdSets session.descriptor.outputs progress.outputs = .ok derived) ↔
      ∀ bundle, bundle ++ idSetEnding ∈ session.descriptor.outputs →
        Derivable session.descriptor.outputs progress.outputs bundle) ∧
    (∀ derived, deriveIdSets session.descriptor.outputs progress.outputs = .ok derived →
      (∀ bundle, bundle ++ idSetEnding ∈ session.descriptor.outputs →
        ∃ edges, progress.outputs[bundle]? = some (.edgeBundle edges) ∧
          derived[bundle ++ idSetEnding]? = some (.vertexSet ⟨edges.externalIds⟩) ∧
            ∀ persisted, (engine.compute store text).result = .ok persisted →
              (Entity.vertexSet ⟨edges.externalIds⟩).size = (Entity.edgeBundle edges).size) ∧
      (∀ name, ¬ (name ∈ session.descriptor.outputs ∧ ∃ bundle, name = bundle ++ idSetEnding) →
        derived[name]? = progress.outputs[name]?) ∧
      ∀ persisted, (engine.compute store text).result = .ok persisted →
        (engine.compute store text).store.memory
          = store.memory.insertMany (bindOutputs session.descriptor.outputs derived)) ∧
    ∀ error, deriveIdSets session.descriptor.outputs progress.outputs = .error error →
      (∃ bundle, bundle ++ idSetEnding ∈ session.descriptor.outputs ∧
        ¬ Derivable session.descriptor.outputs progress.outputs bundle ∧
        (∀ other, other ++ idSetEnding ∈ session.descriptor.outputs →
          Utf8.encode (other ++ idSetEnding) < Utf8.encode (bundle ++ idSetEnding) →
            Derivable session.descriptor.outputs progress.outputs other) ∧
        error = refusal session.descriptor.outputs progress.outputs bundle) ∧
      (engine.compute store text).result = .error error ∧
        (engine.compute store text).store.memory = store.memory := by
  refine ⟨deriveIdSets_eq_ok, fun derived derives => ⟨fun bundle declared => ?_, ?_, ?_⟩,
    fun error refuses => ⟨refused_of_deriveIdSets refuses, ?_⟩⟩
  · have holds := derived_of_deriveIdSets derives
    have listed := Std.ExtTreeMap.mem_keys.mpr declared
    obtain ⟨_, noIdSet, edges, found⟩ := holds.derivable listed
    refine ⟨edges, found, holds.idSets listed found, fun persisted ends => size_idSet ?_⟩
    have kept : derived[bundle]? = progress.outputs[bundle]? :=
      holds.others fun handled => handled.2.elim noIdSet
    exact (merged_of_compute prepared ran derives ends).1 bundle _ (kept.trans found)
  · intro name untouched
    refine (derived_of_deriveIdSets derives).others fun handled => untouched ?_
    exact ⟨Std.ExtTreeMap.mem_keys.mp handled.1, handled.2⟩
  · exact fun persisted ends => (merged_of_compute prepared ran derives ends).2
  · have fails := result_of_refused prepared ran refuses
    exact ⟨fails, memory_of_error fails⟩

theorem idSets_edgesAndIds :
    ∃ body session progress,
      withExampleGraph.prepare .overTwoAreas edgesAndIds = .ok (body, session) ∧
        session.run body ⟨∅, Store.overTwoAreas.files, []⟩ = (.ok (), progress) ∧
          ((∃ derived, deriveIdSets session.descriptor.outputs progress.outputs = .ok derived) ↔
            ∀ bundle, bundle ++ idSetEnding ∈ session.descriptor.outputs →
              Derivable session.descriptor.outputs progress.outputs bundle) := by
  obtain ⟨persisted, computed⟩ := exists_edgesAndIds
  obtain ⟨session, progress, _, produces, _⟩ := compute_eq_ok computed
  obtain ⟨body, prepared, ran⟩ := produces.runs
  exact ⟨body, session, progress, prepared, ran, (idSets_of_compute prepared ran).1⟩

end GraphEngine.Engine
