import GraphEngine.Proofs.Area.Overwriting
import GraphEngine.Proofs.Persistence.Reordering

/-!
Jobs that are done more than once.

What a job leaves for its guid, a later one for the same guid replaces, and jobs for other guids do
not touch it. So how a job ends depends on no job before it, and only the last job for a guid is
seen in the files.
-/
namespace GraphEngine.Store

variable {store : Store} {job later : Job} {jobs front : List Job}

theorem persistJob_of_isScalar (scalar : job.2.isScalar = true) : store.persistJob job = store := by
  rw [persistJob, persist, if_pos scalar]

/-- A job answers as if no other had been done before, whichever guid that was for. -/
theorem answer_persistJob (store : Store) (job later : Job) :
    ((store.persistJob job).persist later.1 later.2).1 = (store.persist later.1 later.2).1 := by
  by_cases different : later.1 = job.1
  · by_cases scalar : job.2.isScalar = true
    · rw [persistJob_of_isScalar scalar]
    · simp only [persistJob, persist, if_neg scalar, save, afterwards, different, Area.save_again]
      split <;> rfl
  · exact (independent_persist different).answer store

theorem answer_persistAll (store : Store) (jobs : List Job) (later : Job) :
    ((store.persistAll jobs).persist later.1 later.2).1 = (store.persist later.1 later.2).1 := by
  induction jobs generalizing store with
  | nil => rfl
  | cons job rest ih => exact (ih (store.persistJob job)).trans (answer_persistJob store job later)

theorem outcomes_eq_map (store : Store) (jobs : List Job) :
    store.outcomes jobs = jobs.map fun job => (job.1, (store.persist job.1 job.2).1) := by
  induction jobs generalizing store with
  | nil => rfl
  | cons job rest ih => simp only [outcomes, ih, List.map_cons, answer_persistJob]

/-- A job is replaced by a later one for the same guid. -/
theorem persistJob_persistJob (own : later.1 = job.1) (written : later.2.isScalar = false) :
    (store.persistJob job).persistJob later = store.persistJob later := by
  by_cases scalar : job.2.isScalar = true
  · rw [persistJob_of_isScalar scalar]
  · simp only [persistJob, persist, if_neg scalar, written, Bool.false_eq_true, if_false, save,
      afterwards, own, Area.save_again]

/-- Before a list with a job for its guid, a job leaves no trace. -/
theorem persistAll_persistJob_of_mem
    (again : ∃ later ∈ jobs, later.1 = job.1 ∧ later.2.isScalar = false) :
    (store.persistJob job).persistAll jobs = store.persistAll jobs := by
  induction jobs generalizing store with
  | nil =>
      obtain ⟨_, listed, _⟩ := again
      cases listed
  | cons next rest ih =>
      change ((store.persistJob job).persistJob next).persistAll rest
        = (store.persistJob next).persistAll rest
      by_cases replaces : next.1 = job.1 ∧ next.2.isScalar = false
      · rw [persistJob_persistJob replaces.1 replaces.2]
      · have inRest : ∃ later ∈ rest, later.1 = job.1 ∧ later.2.isScalar = false := by
          obtain ⟨later, listed, own⟩ := again
          rcases List.mem_cons.mp listed with rfl | listed
          · exact absurd own replaces
          · exact ⟨later, listed, own⟩
        by_cases own : next.1 = job.1
        · have scalar : next.2.isScalar = true := by
            rw [not_and, Bool.not_eq_false] at replaces
            exact replaces own
          rw [persistJob_of_isScalar scalar, persistJob_of_isScalar scalar, ih inRest]
        · rw [persistJob_comm own, ih inRest]

theorem persistAll_persistAll (again : ∀ job ∈ front, job ∈ jobs) :
    (store.persistAll front).persistAll jobs = store.persistAll jobs := by
  induction front generalizing store with
  | nil => rfl
  | cons job rest ih =>
      rw [List.forall_mem_cons] at again
      change ((store.persistJob job).persistAll rest).persistAll jobs = store.persistAll jobs
      rw [ih again.2]
      cases scalar : job.2.isScalar with
      | true => rw [persistJob_of_isScalar scalar]
      | false => exact persistAll_persistJob_of_mem ⟨job, again.1, rfl, scalar⟩

/-- Jobs that are all done a second time end as they did, and leave what they left. -/
theorem persistAll_twice (store : Store) (jobs : List Job) :
    (store.persistAll jobs).persistAll jobs = store.persistAll jobs ∧
      (store.persistAll jobs).outcomes jobs = store.outcomes jobs := by
  refine ⟨persistAll_persistAll fun _ listed => listed, ?_⟩
  simp only [outcomes_eq_map, answer_persistAll]

end GraphEngine.Store
