import GraphEngine.Proofs.Session.Exchanges
import GraphEngine.Registry

/-!
The errors with which bodies end.

Two kinds of errors belong to the gate: the text is no descriptor, or no operation is registered for
it. A session never replies with one of them, so a body that does not make one up does not end with
one. None of the operations that every engine offers does.
-/
namespace GraphEngine

/-- Because of such an error no body is run at all. -/
def EngineError.RefusesText : EngineError → Prop
  | .unsupportedOperation _ | .invalidDescriptor _ => True
  | _ => False

namespace Entity

variable {entity : Entity} {guid : Guid} {error : EngineError}

theorem asVertexSet_error (h : entity.asVertexSet guid = .error error) :
    error = .wrongKind guid .vertexSet entity.kind := by
  cases entity <;> cases h <;> rfl

theorem asEdgeBundle_error (h : entity.asEdgeBundle guid = .error error) :
    error = .wrongKind guid .edgeBundle entity.kind := by
  cases entity <;> cases h <;> rfl

theorem asStringAttribute_error (h : entity.asStringAttribute guid = .error error) :
    error = .wrongKind guid .stringAttribute entity.kind := by
  cases entity <;> cases h <;> rfl

end Entity

theorem Attribute.make_error {α : Type} {values : List α} {defined : List Bool}
    {error : EngineError} (h : Attribute.make values defined = .error error) :
    ∃ cause, error = .corruptEntity cause := by
  unfold Attribute.make at h
  dsimp only at h
  split at h
  · cases h
    exact ⟨_, rfl⟩
  · cases h

namespace Session

variable {α β : Type} {session : Session} {progress : Progress} {error : EngineError}

theorem run_bind (session : Session) (body : Program α) (next : α → Program β)
    (progress : Progress) :
    session.run (body >>= next) progress =
      match session.run body progress with
      | (.ok value, between) => session.run (next value) between
      | (.error error, last) => (.error error, last) := by
  induction body generalizing progress with
  | done result => cases result <;> rfl
  | call request resume ih => exact ih _ _

theorem run_attempt (session : Session) (body : Program α) (progress : Progress) :
    session.run body.attempt progress
      = (.ok (session.run body progress).1, (session.run body progress).2) := by
  induction body generalizing progress with
  | done result => rfl
  | call request resume ih => exact ih _ _

/-- The reply is this error. -/
def FailsWith : Exchange → EngineError → Prop
  | ⟨.input _, reply⟩, error => (reply : Except EngineError (Guid × Entity)) = .error error
  | ⟨.output _ _, reply⟩, error => (reply : Except EngineError Unit) = .error error
  | ⟨.stage _, reply⟩, error => (reply : Except EngineError Staged) = .error error
  | _, _ => False

theorem input_error {name : String} (h : session.input name = .error error) :
    ¬ error.RefusesText := by
  unfold input at h
  split at h
  · cases h
  · cases h
    exact not_false

theorem stage_error {name : String} {files : Files}
    (h : (session.stage name files).1 = .error error) : ¬ error.RefusesText := by
  unfold stage at h
  split at h
  · next guid entity found =>
      change (Area.performAll (session.staging.stageSteps guid entity) files).1.map _ = _ at h
      cases steps : session.staging.stageSteps guid entity with
      | ok list =>
          rw [steps, Area.performAll] at h
          cases performed : (files.perform list).1 with
          | ok _ =>
              rw [performed] at h
              cases h
          | error fault =>
              rw [performed] at h
              cases h
              exact not_false
      | error cause =>
          rw [steps] at h
          cases h
          rcases Result.bind_eq_error.mp steps with unnamed | ⟨_, _, named⟩
          · cases safe : guid.isSafe with
            | true =>
                rw [Area.directory_of_isSafe safe] at unnamed
                cases unnamed
            | false =>
                rw [Area.directory_of_not_isSafe safe] at unnamed
                cases unnamed
                exact not_false
          · cases named
  · next cause unbound =>
      cases h
      exact input_error unbound

theorem not_refusesText_of_failsWith {request : Call}
    (h : FailsWith ⟨request, (session.answer progress request).1⟩ error) : ¬ error.RefusesText := by
  cases request with
  | input name => exact input_error h
  | stage name => exact stage_error h
  | output name entity =>
      simp only [FailsWith, answer] at h
      split at h
      · cases h
      · cases h
        exact not_false
  | _ => cases h

end Session

namespace Program

variable {α β : Type}

/-- An error that refuses the text is none of the program's own: it is passed on from a reply. -/
def NeverRefuses (body : Program α) : Prop :=
  ∀ session progress error, (Session.run session body progress).1 = .error error →
    error.RefusesText →
      ∃ exchange ∈ session.exchanges body progress, Session.FailsWith exchange error

/-- However the program ends, it does not say that it should not have been run. -/
def Accepts (body : Program α) : Prop :=
  ∀ session progress error, (Session.run session body progress).1 = .error error →
    ¬ error.RefusesText

/-- As no reply refuses the text, a program does so only by an error of its own. -/
theorem neverRefuses_iff_accepts {body : Program α} : body.NeverRefuses ↔ body.Accepts := by
  constructor
  · intro noneOfItsOwn session progress error ends refuses
    obtain ⟨⟨request, reply⟩, passed, fails⟩ := noneOfItsOwn session progress error ends refuses
    obtain ⟨between, replied⟩ := Session.reply_of_mem_exchanges passed
    have replied : reply = (session.answer between request).1 := replied
    subst replied
    exact Session.not_refusesText_of_failsWith fails refuses
  · intro accepts session progress error ends refuses
    exact absurd refuses (accepts session progress error ends)

namespace Accepts

theorem pure (value : α) : (Pure.pure value : Program α).Accepts := by
  intro session progress error ends
  cases ends

theorem fail {error : EngineError} (h : ¬ error.RefusesText) :
    (fail error : Program α).Accepts := by
  intro session progress other ends
  cases ends
  exact h

theorem ofExcept {result : Except EngineError α}
    (h : ∀ error, result = .error error → ¬ error.RefusesText) : (ofExcept result).Accepts :=
  fun _ _ => h

theorem bind {body : Program α} {next : α → Program β} (first : body.Accepts)
    (others : ∀ value, (next value).Accepts) : (body >>= next).Accepts := by
  intro session progress error ends
  rw [Session.run_bind] at ends
  split at ends
  · exact others _ _ _ _ ends
  · next fails =>
      cases ends
      exact first session progress error (by rw [fails])

theorem attempt (body : Program α) : body.attempt.Accepts := by
  intro session progress error ends
  rw [Session.run_attempt] at ends
  cases ends

theorem input (name : String) : (Program.input name).Accepts :=
  fun _ _ _ => Session.input_error

theorem stage (name : String) : (Program.stage name).Accepts :=
  fun _ _ _ => Session.stage_error

theorem output (name : String) (entity : Entity) : (Program.output name entity).Accepts := by
  intro session progress error ends
  have fails : Session.FailsWith
      ⟨.output name entity, (session.answer progress (.output name entity)).1⟩ error := ends
  exact Session.not_refusesText_of_failsWith fails

theorem parameter? (name : String) : (Program.parameter? name).Accepts := by
  intro session progress error ends
  cases ends

theorem hasOutput (name : String) : (Program.hasOutput name).Accepts := by
  intro session progress error ends
  cases ends

theorem runHelper (command : List String) : (Program.runHelper command).Accepts := by
  intro session progress error ends
  cases ends

theorem vertexSet (name : String) : (Program.vertexSet name).Accepts :=
  (input name).bind fun _ => ofExcept fun _ fails => Entity.asVertexSet_error fails ▸ not_false

theorem edgeBundle (name : String) : (Program.edgeBundle name).Accepts :=
  (input name).bind fun _ => ofExcept fun _ fails => Entity.asEdgeBundle_error fails ▸ not_false

theorem stringAttribute (name : String) : (Program.stringAttribute name).Accepts :=
  (input name).bind fun _ =>
    ofExcept fun _ fails => Entity.asStringAttribute_error fails ▸ not_false

theorem parameterAs (read? : Json → Option α) (otherwise : ParameterFault) (name : String) :
    (Program.parameterAs read? otherwise name).Accepts := by
  refine (parameter? name).bind fun given => ?_
  cases given with
  | none => exact fail not_false
  | some value =>
      dsimp only
      cases read? value with
      | none => exact fail not_false
      | some value => exact pure value

theorem optionalNumber (name : String) : (Program.optionalNumber name).Accepts := by
  refine (parameter? name).bind fun given => ?_
  split
  · exact pure none
  · exact pure none
  · exact (parameterAs _ _ _).bind fun value => pure (some value)

theorem made (values : List α) (defined : List Bool) :
    (Program.ofExcept (Attribute.make values defined)).Accepts := by
  refine ofExcept fun error fails => ?_
  obtain ⟨cause, rfl⟩ := Attribute.make_error fails
  exact not_false

end Accepts

open Operation

theorem accepts_handOver (parts : List (String × Entity)) :
    (ExampleGraph.handOver parts).Accepts := by
  induction parts with
  | nil => exact .pure ()
  | cons part rest ih =>
      refine (Accepts.hasOutput part.1).bind fun isAsked => ?_
      cases isAsked with
      | true => exact (Accepts.output _ _).bind fun _ => ih
      | false => exact ih

theorem accepts_oneHotEncoder : OneHotEncoder.body.Accepts :=
  (Accepts.stringAttribute _).bind fun _ => (Accepts.parameterAs _ _ _).bind fun _ =>
    (Accepts.made _ _).bind fun _ => .output _ _

theorem accepts_outDegree : OutDegree.body.Accepts := by
  refine (Accepts.vertexSet _).bind fun vertices => (Accepts.edgeBundle _).bind fun bundle => ?_
  split
  · exact .fail not_false
  · exact (Accepts.made _ _).bind fun _ => .output _ _

theorem accepts_importEntities (command : String) (entities : List (String × Entity)) :
    (importEntities command entities).Accepts := by
  induction entities with
  | nil => exact .pure ()
  | cons entity rest ih =>
      refine Accepts.bind ?_ fun _ => ih
      unfold importOutput
      split
      · exact .fail not_false
      · refine (Accepts.attempt _).bind fun result => ?_
        cases result with
        | error error => exact .fail not_false
        | ok _ => exact .pure ()

theorem accepts_conclude (command : String) (outcome : HelperOutcome) :
    (Node2Vec.conclude command outcome).Accepts := by
  unfold Node2Vec.conclude
  split
  · exact .fail not_false
  · unfold importOutputs
    split
    · exact accepts_importEntities _ _
    · exact .fail not_false
  · exact .fail not_false
  · exact .fail not_false

theorem accepts_node2Vec (command : List String) : (Node2Vec.body command).Accepts := by
  refine (Accepts.vertexSet _).bind fun vertices => (Accepts.parameterAs _ _ _).bind fun _ =>
    (Accepts.optionalNumber _).bind fun _ => (Accepts.stage _).bind fun _ => ?_
  dsimp only
  split
  · refine Accepts.bind (Accepts.fail ?_) fun _ => (Accepts.runHelper _).bind fun _ =>
      accepts_conclude _ _
    exact not_false
  · exact (Accepts.runHelper _).bind fun _ => accepts_conclude _ _

end Program

theorem Registry.accepts_builtIn (command : List String) :
    ∀ operation ∈ Registry.builtIn command, operation.2.Accepts := by
  simp only [Registry.builtIn, List.forall_mem_cons]
  exact ⟨Program.accepts_handOver _, Program.accepts_oneHotEncoder, Program.accepts_outDegree,
    Program.accepts_node2Vec command, by simp⟩

end GraphEngine
