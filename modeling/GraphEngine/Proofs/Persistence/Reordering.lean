import GraphEngine.Persistence.Workers
import GraphEngine.Proofs.Files.Siblings

/-!
Jobs for different guids.

What a job does depends only on the jobs for its own guid. So it matters for the files in which
order the jobs for one guid are done, but not where between them the jobs for others are, nor
whether these fail.
-/
namespace GraphEngine

namespace Area

variable {area : Area} {job other : Job}

/-- Only the directory of its guid is served by a job. -/
theorem serves_jobSteps : ∀ step ∈ area.jobSteps job, step.Serves (area.folder job.1) := by
  unfold jobSteps
  split
  · simp
  · split
    · next steps listed =>
        obtain ⟨directory, named, listed⟩ := Result.bind_eq_ok.mp listed
        cases eq_folder_of_directory named
        cases listed
        simp only [List.forall_mem_append, List.forall_mem_cons, replaceSteps]
        exact ⟨⟨⟨.makeDirectories, .inside (.clear _), by simp⟩,
          .inside (.createFile _), .inside (.append _ _), .inside (.rename _ _), by simp⟩,
          .inside (.createFile _), by simp⟩
    · simp

theorem independent_of_serves {guid own : Guid} (different : guid ≠ own)
    {left right : List Files.Step} (first : ∀ step ∈ left, step.Serves (area.folder guid))
    (second : ∀ step ∈ right, step.Serves (area.folder own)) :
    Independent (Files.perform · left) (Files.perform · right) :=
  Files.independent_perform (fun same => different (congrArg Guid.mk same)) first second

theorem independent_jobs (different : job.1 ≠ other.1) :
    Independent (Files.perform · (area.jobSteps job)) (Files.perform · (area.jobSteps other)) :=
  independent_of_serves different serves_jobSteps serves_jobSteps

/-- How a job ends whose steps have ended like this. -/
def jobAnswer (area : Area) (job : Job) (performed : Except SystemFault Unit) :
    Except EngineError Bool :=
  if job.2.isScalar then .ok false
  else do
    let _ ← area.saveSteps job.1 job.2
    (performed.map fun _ => true).mapError SystemFault.toError

end Area

namespace Store

variable {store : Store} {job other : Job} {jobs reordered : List Job} {guid : Guid}

theorem persist_eq_perform (store : Store) (job : Job) :
    store.persist job.1 job.2
      = (store.ordered.jobAnswer job (store.files.perform (store.ordered.jobSteps job)).1,
        { store with files := (store.files.perform (store.ordered.jobSteps job)).2 }) := by
  unfold persist Area.jobAnswer Area.jobSteps
  cases job.2.isScalar with
  | true => rfl
  | false =>
      simp only [Bool.false_eq_true, if_false, save, afterwards, Area.save, Area.performAll]
      cases store.ordered.saveSteps job.1 job.2 with
      | error fault => rfl
      | ok steps =>
          simp only [bind, Except.bind]
          cases (store.files.perform steps).1 <;> rfl

theorem persistJob_eq_perform (store : Store) (job : Job) :
    store.persistJob job
      = { store with files := (store.files.perform (store.ordered.jobSteps job)).2 } := by
  rw [persistJob, persist_eq_perform]

/-- Jobs change the files and nothing else. -/
theorem persistAll_eq_files (store : Store) (jobs : List Job) :
    ∃ files, store.persistAll jobs = { store with files } := by
  induction jobs generalizing store with
  | nil => exact ⟨store.files, rfl⟩
  | cons job rest ih =>
      obtain ⟨files, others⟩ := ih (store.persistJob job)
      refine ⟨files, others.trans ?_⟩
      rw [persistJob_eq_perform]

theorem independent_persist (different : job.1 ≠ other.1) :
    Independent (fun store : Store => store.persist job.1 job.2)
      fun store => store.persist other.1 other.2 where
  answer store := by
    rw [persist_eq_perform, persist_eq_perform, persist_eq_perform,
      (Area.independent_jobs different).answer]
  answer_other store := by
    rw [persist_eq_perform, persist_eq_perform, persist_eq_perform,
      (Area.independent_jobs different).answer_other]
  leave store := by
    rw [persist_eq_perform, persist_eq_perform, persist_eq_perform, persist_eq_perform,
      (Area.independent_jobs different).leave]

theorem persistJob_comm (different : job.1 ≠ other.1) :
    (store.persistJob other).persistJob job = (store.persistJob job).persistJob other :=
  (independent_persist different).leave store

theorem persistAll_append (store : Store) (first rest : List Job) :
    store.persistAll (first ++ rest) = (store.persistAll first).persistAll rest :=
  List.foldl_append

theorem persistAll_persistJob (others : ∀ other ∈ jobs, job.1 ≠ other.1) :
    (store.persistJob job).persistAll jobs = (store.persistAll jobs).persistJob job := by
  induction jobs generalizing store with
  | nil => rfl
  | cons next rest ih =>
      rw [List.forall_mem_cons] at others
      change ((store.persistJob job).persistJob next).persistAll rest
        = ((store.persistJob next).persistAll rest).persistJob job
      rw [← persistJob_comm others.1, ih others.2]

theorem persistAll_of_filter
    (same : ∀ guid, reordered.filter (·.1 = guid) = jobs.filter (·.1 = guid)) :
    store.persistAll reordered = store.persistAll jobs := by
  induction jobs generalizing store reordered with
  | nil =>
      have empty : reordered = [] := by
        refine List.eq_nil_iff_forall_not_mem.mpr fun job listed => ?_
        have kept : job ∈ reordered.filter (·.1 = job.1) := List.mem_filter.mpr ⟨listed, by simp⟩
        rw [same] at kept
        cases kept
      rw [empty]
  | cons job rest ih =>
      -- In the other list only jobs for other guids stand before this one, so it can go first.
      have own := same job.1
      rw [List.filter_cons_of_pos (by simp), List.filter_eq_cons_iff] at own
      obtain ⟨before, after, split, others, _, later⟩ := own
      have others : ∀ other ∈ before, job.1 ≠ other.1 := fun other listed same =>
        others other listed (by simp [same])
      have alike : ∀ guid, (before ++ after).filter (·.1 = guid) = rest.filter (·.1 = guid) := by
        intro guid
        by_cases different : job.1 = guid
        · subst different
          have none : before.filter (·.1 = job.1) = [] := List.filter_eq_nil_iff.mpr
            fun other listed same => others other listed (of_decide_eq_true same).symm
          rw [List.filter_append, none, List.nil_append, later]
        · have kept := same guid
          rwa [split, List.filter_append, List.filter_cons_of_neg (by simpa using different),
            List.filter_cons_of_neg (by simpa using different), ← List.filter_append] at kept
      calc store.persistAll reordered
        _ = ((store.persistAll before).persistJob job).persistAll after := by
          rw [split, persistAll_append]
          rfl
        _ = (store.persistJob job).persistAll (before ++ after) := by
          rw [persistAll_append, persistAll_persistJob others]
        _ = store.persistAll (job :: rest) := ih alike

theorem others_of_filter (different : job.1 ≠ guid) :
    ∀ other ∈ jobs.filter (·.1 = guid), job.1 ≠ other.1 := by
  intro other listed same
  have own : other.1 = guid := by simpa using (List.mem_filter.mp listed).2
  exact different (same.trans own)

theorem node?_persistJob {place : Path} (different : job.1 ≠ guid)
    (below : store.ordered.folder guid <+: place) :
    (store.persistJob job).files.node? place = store.files.node? place := by
  have outside : store.ordered.Outside job.1 place := by
    have beside : ∀ {left right : Guid}, left ≠ right →
        ¬ store.ordered.folder left <+: store.ordered.folder right := fun unlike within =>
      Files.not_prefix_of_beside (fun same => unlike (congrArg Guid.mk same)) store.ordered.path []
        (by rwa [List.append_nil])
    refine ⟨fun onTheWay => beside different.symm (below.trans onTheWay), fun inside => ?_⟩
    rcases List.prefix_or_prefix_of_prefix inside below with within | within
    · exact beside different within
    · exact beside different.symm within
  rw [persistJob, persist]
  split
  · rfl
  · exact Area.node?_save outside

theorem node?_persistAll (store : Store) (jobs : List Job) {place : Path}
    (below : store.ordered.folder guid <+: place) :
    (store.persistAll jobs).files.node? place
      = (store.persistAll (jobs.filter (·.1 = guid))).files.node? place := by
  induction jobs generalizing store with
  | nil => rfl
  | cons job rest ih =>
      have area : (store.persistJob job).ordered = store.ordered := by rw [persistJob_eq_perform]
      refine (ih (store.persistJob job) (area.symm ▸ below)).trans ?_
      rw [List.filter_cons]
      by_cases own : job.1 = guid
      · simp only [own, decide_true, if_true]
        rfl
      · simp only [own, decide_false, Bool.false_eq_true, if_false]
        obtain ⟨files, changed⟩ := store.persistAll_eq_files (rest.filter (·.1 = guid))
        rw [persistAll_persistJob (others_of_filter own), changed]
        exact node?_persistJob own below

/-- How the jobs end, each with its guid. -/
def outcomes (store : Store) : List Job → List (Guid × Except EngineError Bool)
  | [] => []
  | job :: rest =>
      (job.1, (store.persist job.1 job.2).1) :: (store.persistJob job).outcomes rest

theorem outcomes_persistJob (others : ∀ other ∈ jobs, job.1 ≠ other.1) :
    (store.persistJob job).outcomes jobs = store.outcomes jobs := by
  induction jobs generalizing store with
  | nil => rfl
  | cons next rest ih =>
      rw [List.forall_mem_cons] at others
      rw [outcomes, outcomes, persistJob_comm others.1.symm, ih others.2]
      exact congrArg (fun answer => (next.1, answer) :: _)
        ((independent_persist others.1).answer_other store)

theorem filter_outcomes (store : Store) (jobs : List Job) (guid : Guid) :
    (store.outcomes jobs).filter (·.1 = guid) = store.outcomes (jobs.filter (·.1 = guid)) := by
  induction jobs generalizing store with
  | nil => rfl
  | cons job rest ih =>
      rw [outcomes, List.filter_cons, List.filter_cons, ih]
      by_cases own : job.1 = guid
      · simp only [own, decide_true, if_true, outcomes]
      · simp only [own, decide_false, Bool.false_eq_true, if_false]
        exact outcomes_persistJob (others_of_filter own)

end Store
end GraphEngine
