import GraphEngine.Proofs.Session.Errors

/-!
Bodies that run on their inputs alone.

Most operations neither stage anything nor call a helper. Nothing that such a body gets to see comes
from the files, so it may run over any others, with another area for staging and another helper,
and it leaves the files as they are.
-/
namespace GraphEngine

/-- Neither the area for staging nor the helper takes part in the answer. -/
def Call.IsUnaided : Call → Prop
  | .stage _ | .runHelper _ => False
  | _ => True

namespace Session

variable {α β : Type} {session : Session} {progress : Progress} {body : Program α}

theorem exchanges_bind (session : Session) (body : Program α) (next : α → Program β)
    (progress : Progress) :
    session.exchanges (body >>= next) progress =
      session.exchanges body progress ++
        match session.run body progress with
        | (.ok value, between) => session.exchanges (next value) between
        | (.error _, _) => [] := by
  induction body generalizing progress with
  | done result => cases result <;> rfl
  | call request resume ih => exact congrArg (_ :: ·) (ih _ _)

theorem answer_elsewhere {request : Call} (unaided : request.IsUnaided) (staging : Area)
    (helper : Helper) (files : Files) :
    answer { session with staging, helper } { progress with files } request =
      ((session.answer progress request).1, { (session.answer progress request).2 with files }) := by
  cases request with
  | stage _ | runHelper _ => exact unaided.elim
  | output name entity =>
      cases known : session.descriptor.outputs.contains name <;> simp [answer, hasOutput, known]
  | _ => rfl

/-- The run is the same wherever it takes place. -/
theorem run_elsewhere
    (unaided : ∀ exchange ∈ session.exchanges body progress, exchange.1.IsUnaided)
    (staging : Area) (helper : Helper) (files : Files) :
    run { session with staging, helper } body { progress with files } =
      ((session.run body progress).1, { (session.run body progress).2 with files }) := by
  induction body generalizing progress with
  | done result => rfl
  | call request resume ih =>
      obtain ⟨first, others⟩ := List.forall_mem_cons.mp unaided
      simp only [run]
      rw [answer_elsewhere first]
      exact ih _ others

end Session

namespace Program

variable {α β : Type}

/-- In no run does the program ask for staging or for a helper. -/
def Unaided (body : Program α) : Prop :=
  ∀ session progress, ∀ exchange ∈ Session.exchanges session body progress, exchange.1.IsUnaided

namespace Unaided

theorem ofExcept (result : Except EngineError α) : (Program.ofExcept result).Unaided :=
  fun _ _ _ passed => absurd passed List.not_mem_nil

theorem pure (value : α) : (Pure.pure value : Program α).Unaided := ofExcept (.ok value)

theorem bind {body : Program α} {next : α → Program β} (first : body.Unaided)
    (others : ∀ value, (next value).Unaided) : (body >>= next).Unaided := by
  intro session progress exchange passed
  rw [Session.exchanges_bind] at passed
  rcases List.mem_append.mp passed with before | after
  · exact first session progress exchange before
  · split at after
    · exact others _ _ _ exchange after
    · cases after

theorem input (name : String) : (Program.input name).Unaided :=
  fun _ _ => List.forall_mem_singleton.mpr trivial

theorem hasOutput (name : String) : (Program.hasOutput name).Unaided :=
  fun _ _ => List.forall_mem_singleton.mpr trivial

theorem output (name : String) (entity : Entity) : (Program.output name entity).Unaided :=
  fun _ _ => List.forall_mem_singleton.mpr trivial

end Unaided

theorem unaided_handOver (parts : List (String × Entity)) :
    (Operation.ExampleGraph.handOver parts).Unaided := by
  induction parts with
  | nil => exact .pure ()
  | cons part rest ih =>
      refine (Unaided.hasOutput part.1).bind fun isAsked => ?_
      cases isAsked with
      | true => exact (Unaided.output _ _).bind fun _ => ih
      | false => exact ih

end Program

end GraphEngine
