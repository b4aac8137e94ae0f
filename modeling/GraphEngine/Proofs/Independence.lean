/-!
Actions that are not aware of each other.

An action answers and leaves a state behind. Two of them are independent if neither can tell
whether the other has come first, and what they leave in the end does not depend on it either.
-/
namespace GraphEngine

structure Independent {σ α β : Type} (one : σ → α × σ) (other : σ → β × σ) : Prop where
  answer : ∀ state, (one (other state).2).1 = (one state).1
  answer_other : ∀ state, (other (one state).2).1 = (other state).1
  leave : ∀ state, (one (other state).2).2 = (other (one state).2).2

namespace Independent

variable {σ α β γ : Type} {one : σ → α × σ} {other : σ → β × σ}

theorem of_forall (h : ∀ state, (one (other state).2).1 = (one state).1 ∧
    (other (one state).2).1 = (other state).1 ∧ (one (other state).2).2 = (other (one state).2).2) :
    Independent one other :=
  ⟨fun state => (h state).1, fun state => (h state).2.1, fun state => (h state).2.2⟩

theorem symm (h : Independent one other) : Independent other one :=
  ⟨h.answer_other, h.answer, fun state => (h.leave state).symm⟩

theorem idle (value : α) : Independent (fun state => (value, state)) other :=
  ⟨fun _ => rfl, fun _ => rfl, fun _ => rfl⟩

/-- An action may go on as its answer says. -/
theorem bind {next : α → σ → γ × σ} (h : Independent one other)
    (later : ∀ value, Independent (next value) other) :
    Independent (fun state => next (one state).1 (one state).2) other where
  answer state := by rw [h.answer, h.leave, (later _).answer]
  answer_other state := by rw [(later _).answer_other, h.answer_other]
  leave state := by rw [h.answer, h.leave, (later _).leave]

end Independent
end GraphEngine
