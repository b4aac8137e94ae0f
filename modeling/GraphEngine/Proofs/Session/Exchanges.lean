import GraphEngine.Proofs.Area.Frame
import GraphEngine.Session

/-!
What passes between a body and its session.

The exchanges of a run are all that the body ever learns, and its progress is what they add up to.
So what every single answer preserves holds after every run.
-/
namespace GraphEngine

/-- The helper leaves the area as it finds it. -/
def Helper.Spares (helper : Helper) (area : Area) : Prop :=
  ∀ files command place, area.path <+: place →
    (helper files command).2.node? place = files.node? place

/-- The helper leaves the area and the way to it as it finds them. -/
def Helper.Respects (helper : Helper) (area : Area) : Prop :=
  ∀ files command, area.Spared files (helper files command).2

namespace Session

/-- A call together with the reply to it. -/
abbrev Exchange := (request : Call) × request.Reply

variable {α : Type} {session : Session} {progress : Progress} {body : Program α}

def exchanges (session : Session) : Program α → Progress → List Exchange
  | .done _, _ => []
  | .call request resume, progress =>
      let (reply, progress) := session.answer progress request
      ⟨request, reply⟩ :: session.exchanges (resume reply) progress

def after (session : Session) (progress : Progress) (exchange : Exchange) : Progress :=
  (session.answer progress exchange.1).2

theorem run_snd (session : Session) (body : Program α) (progress : Progress) :
    (session.run body progress).2
      = (session.exchanges body progress).foldl session.after progress := by
  induction body generalizing progress with
  | done result => rfl
  | call request resume ih => exact ih _ _

theorem run_induction {P : Progress → Prop} (begins : P progress)
    (preserved : ∀ {progress} request, P progress → P (session.answer progress request).2) :
    P (session.run body progress).2 := by
  rw [run_snd]
  generalize session.exchanges body progress = exchanges
  induction exchanges generalizing progress with
  | nil => exact begins
  | cons exchange rest ih => exact ih (preserved exchange.1 begins)

/-- Every reply is the answer of the session at some point of the run. -/
theorem reply_of_mem_exchanges {exchange : Exchange}
    (h : exchange ∈ session.exchanges body progress) :
    ∃ between, exchange.2 = (session.answer between exchange.1).1 := by
  induction body generalizing progress with
  | done result => cases h
  | call request resume ih =>
      rcases List.mem_cons.mp h with rfl | later
      · exact ⟨progress, rfl⟩
      · exact ih _ later

theorem declared_run (declared : ∀ name ∈ progress.outputs, name ∈ session.descriptor.outputs) :
    ∀ name ∈ (session.run body progress).2.outputs, name ∈ session.descriptor.outputs := by
  refine run_induction (P := fun progress => ∀ name ∈ progress.outputs,
    name ∈ session.descriptor.outputs) declared fun {progress} request declared => ?_
  cases request with
  | output name entity =>
      rw [answer]
      split
      · next known =>
          intro other produced
          rcases Std.ExtTreeMap.mem_insert.mp produced with same | before
          · rw [← Std.LawfulEqOrd.eq_of_compare same]
            exact known
          · exact declared other before
      · exact declared
  | _ => exact declared

theorem node?_answer {area : Area} {place : Path} (apart : area.Apart session.staging)
    (spares : session.helper.Spares area) (inside : area.path <+: place) (request : Call) :
    (session.answer progress request).2.files.node? place = progress.files.node? place := by
  cases request with
  | stage name =>
      change (session.stage name progress.files).2.node? place = _
      unfold stage
      split
      · exact Area.node?_stage (apart.outside inside _)
      · rfl
  | runHelper command => exact spares progress.files command place inside
  | output name entity =>
      rw [answer]
      split <;> rfl
  | _ => rfl

theorem node?_run {area : Area} {place : Path} (apart : area.Apart session.staging)
    (spares : session.helper.Spares area) (inside : area.path <+: place) :
    (session.run body progress).2.files.node? place = progress.files.node? place :=
  run_induction (P := fun later => later.files.node? place = progress.files.node? place) rfl
    fun request same => (node?_answer apart spares inside request).trans same

theorem spared_answer {area : Area} (apart : area.Apart session.staging)
    (respects : session.helper.Respects area) (isOpen : progress.files.IsOpen area.path)
    (request : Call) : area.Spared progress.files (session.answer progress request).2.files := by
  cases request with
  | stage name =>
      change area.Spared progress.files (session.stage name progress.files).2
      unfold stage
      split
      · exact Area.spared_stage apart isOpen
      · exact .refl _
  | runHelper command => exact respects progress.files command
  | output name entity =>
      rw [answer]
      split <;> exact .refl _
  | _ => exact .refl _

theorem spared_run {area : Area} (apart : area.Apart session.staging)
    (respects : session.helper.Respects area) (isOpen : progress.files.IsOpen area.path) :
    area.Spared progress.files (session.run body progress).2.files :=
  run_induction (P := fun later => area.Spared progress.files later.files) (.refl _)
    fun request spared =>
      spared.trans (spared_answer apart respects (spared.isOpen isOpen) request)

end Session
end GraphEngine
