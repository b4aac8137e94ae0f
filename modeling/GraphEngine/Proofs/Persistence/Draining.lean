import GraphEngine.CommandLine.Run
import GraphEngine.Proofs.Persistence.Reordering
import GraphEngine.Proofs.Store.Opening
import Mathlib.Algebra.BigOperators.Fin
import Mathlib.Data.List.FinRange

/-!
A pool comes to rest, with the files as if the jobs had been done one after another.

What every actor still has to do, done worker by worker and then for the jobs that wait, leads to
the same files before and after each turn: workers serve different guids, so that one of them can
be moved to the front or to the end. Each turn leaves less to do, and while there is something to
do someone can take a turn.
-/
namespace GraphEngine

namespace Files

/-- The files after several lists of steps, each of which ends early if a step fails. -/
def settle (files : Files) (tasks : List (List Step)) : Files :=
  tasks.foldl (fun files steps => (files.perform steps).2) files

theorem settle_append (files : Files) (first rest : List (List Step)) :
    files.settle (first ++ rest) = (files.settle first).settle rest :=
  List.foldl_append

theorem independent_settle {α : Type} {action : Files → α × Files} {tasks : List (List Step)}
    (each : ∀ steps ∈ tasks, ∀ step ∈ steps, Independent (perform · [step]) action) :
    Independent (fun files => ((), files.settle tasks)) action := by
  induction tasks with
  | nil => exact Independent.idle ()
  | cons steps rest ih =>
      rw [List.forall_mem_cons] at each
      exact (independent_perform_of_step each.1).bind fun _ => ih each.2

end Files

namespace Pool

variable {area : Area} {pool : Pool} {route : Guid → Fin pool.workers} {work next : Work pool}

namespace Worker

variable {worker after : Worker} {files changed : Files}

/-- What the worker still has to do, job by job. -/
def tasks (area : Area) (worker : Worker) : List (List Files.Step) :=
  worker.rest :: worker.queue.map area.jobSteps

theorem settle_advance (h : worker.advance area files = some (after, changed)) :
    changed.settle (after.tasks area) = files.settle (worker.tasks area) := by
  unfold advance at h
  split at h
  · next queue step rest =>
      split at h
      · next applied =>
          cases h
          simp only [Files.settle, tasks, List.foldl_cons, Files.perform_cons applied]
      · next fails =>
          cases h
          simp only [Files.settle, tasks, List.foldl_cons, Files.perform, fails]
  · cases h
    rfl
  · cases h

/-- A worker finds all its steps among those it had to do. -/
theorem mem_tasks_of_advance (h : worker.advance area files = some (after, changed))
    {steps : List Files.Step} (listed : steps ∈ after.tasks area) {step : Files.Step}
    (own : step ∈ steps) : ∃ steps ∈ worker.tasks area, step ∈ steps := by
  unfold advance at h
  split at h
  · next queue first rest =>
      have kept : steps ∈ rest :: queue.map area.jobSteps →
          ∃ steps ∈ (first :: rest) :: queue.map area.jobSteps, step ∈ steps := by
        intro listed
        rcases List.mem_cons.mp listed with rfl | later
        · exact ⟨_, List.mem_cons_self, List.mem_cons_of_mem _ own⟩
        · exact ⟨steps, List.mem_cons_of_mem _ later, own⟩
      split at h
      · cases h
        exact kept listed
      · cases h
        rcases List.mem_cons.mp listed with rfl | later
        · cases own
        · exact kept (List.mem_cons_of_mem _ later)
  · cases h
    exact ⟨steps, List.mem_cons_of_mem _ listed, own⟩
  · cases h

theorem tasks_enqueue (job : Job) :
    (worker.enqueue job).tasks area = worker.tasks area ++ [area.jobSteps job] := by
  simp [tasks, enqueue]

/-- How many turns the worker can take at most until it has nothing to do. -/
def effort (area : Area) (worker : Worker) : Nat :=
  worker.rest.length + (worker.queue.map fun job => (area.jobSteps job).length + 1).sum

theorem effort_enqueue (job : Job) :
    (worker.enqueue job).effort area = worker.effort area + (area.jobSteps job).length + 1 := by
  simp [effort, enqueue]
  omega

theorem effort_of_advance (h : worker.advance area files = some (after, changed)) :
    after.effort area < worker.effort area := by
  unfold advance at h
  split at h
  · split at h
    · cases h
      simp [effort]
    · cases h
      simp [effort]
  · cases h
    simp only [effort, List.map_cons, List.sum_cons, List.length_nil]
    omega
  · cases h

theorem idle_of_advance (h : worker.advance area files = none) : worker = idle := by
  obtain ⟨queue, rest⟩ := worker
  cases rest with
  | cons step rest =>
      simp only [advance] at h
      split at h <;> cases h
  | nil =>
      cases queue with
      | cons job queue => cases h
      | nil => rfl

end Worker

namespace Work

/-- What a turn changes. -/
inductive Turn (area : Area) (route : Guid → Fin pool.workers) (work : Work pool) :
    Work pool → Prop where
  | sent {job : Job} {waiting : List Job} (waits : work.waiting = job :: waiting) :
      Turn area route work
        { work.setWorker (route job.1) ((work.workers (route job.1)).enqueue job) with
          waiting, accepted := work.accepted + 1 }
  | advanced {index : Fin pool.workers} {worker : Worker} {files : Files}
      (does : (work.workers index).advance area work.files = some (worker, files)) :
      Turn area route work { work.setWorker index worker with files }

theorem turn_of_move {actor : Actor pool} (h : work.move area route actor = some next) :
    Turn area route work next := by
  cases actor with
  | sender =>
      simp only [move, send] at h
      split at h
      · cases h
      · next job waiting waits =>
          split at h
          · cases h
            exact .sent waits
          · cases h
  | worker index =>
      obtain ⟨⟨worker, files⟩, does, changed⟩ := Option.bind_eq_some_iff.mp h
      cases changed
      exact .advanced does

@[simp] theorem workers_setWorker_self (index : Fin pool.workers) (worker : Worker) :
    (work.setWorker index worker).workers index = worker := if_pos rfl

theorem workers_setWorker_of_ne {index other : Fin pool.workers} (h : other ≠ index)
    (worker : Worker) : (work.setWorker index worker).workers other = work.workers other :=
  if_neg h

/-- Every worker serves the guids that are routed to it. -/
def Routed (area : Area) (route : Guid → Fin pool.workers) (work : Work pool) : Prop :=
  ∀ index, ∀ steps ∈ (work.workers index).tasks area, ∀ step ∈ steps,
    ∃ guid, route guid = index ∧ step.Serves (area.folder guid)

theorem routed_start (jobs : List Job) (files : Files) :
    (start pool jobs files).Routed area route := by
  intro index steps listed
  simp [start, Worker.idle, Worker.tasks] at listed
  simp [listed]

theorem Routed.of_turn (routed : work.Routed area route) (h : Turn area route work next) :
    next.Routed area route := by
  intro index
  cases h with
  | @sent job waiting waits =>
      by_cases own : index = route job.1
      · subst own
        simp only [workers_setWorker_self, Worker.tasks_enqueue]
        rw [List.forall_mem_append]
        refine ⟨routed _, ?_⟩
        rw [List.forall_mem_singleton]
        exact fun step listed => ⟨job.1, rfl, area.serves_jobSteps step listed⟩
      · simp only [workers_setWorker_of_ne own]
        exact routed index
  | @advanced actor worker files does =>
      by_cases own : index = actor
      · subst own
        simp only [workers_setWorker_self]
        intro steps listed step own
        obtain ⟨before, among, own⟩ := Worker.mem_tasks_of_advance does listed own
        exact routed index before among step own
      · simp only [workers_setWorker_of_ne own]
        exact routed index

/-- The files once the workers have done what they have to do, in the given order. -/
def settleWorkers (area : Area) (workers : Fin pool.workers → Worker) (files : Files)
    (order : List (Fin pool.workers)) : Files :=
  order.foldl (fun files index => files.settle ((workers index).tasks area)) files

/-- The files once all is done, if the workers do their part before the waiting jobs are done. -/
def outcome (area : Area) (work : Work pool) : Files :=
  (settleWorkers area work.workers work.files (List.finRange pool.workers)).settle
    (work.waiting.map area.jobSteps)

theorem Routed.independent (routed : work.Routed area route) {index other : Fin pool.workers}
    (different : index ≠ other) :
    Independent (fun files : Files => ((), files.settle ((work.workers index).tasks area)))
      fun files : Files => ((), files.settle ((work.workers other).tasks area)) := by
  refine Files.independent_settle fun steps listed step own => Independent.symm ?_
  refine Files.independent_settle fun others listedOther stepOther ownOther => ?_
  obtain ⟨guid, here, serves⟩ := routed index steps listed step own
  obtain ⟨guidOther, there, servesOther⟩ := routed other others listedOther stepOther ownOther
  refine Area.independent_of_serves ?_ (by simpa using servesOther) (by simpa using serves)
  rintro rfl
  exact different (here.symm.trans there)

/-- The order of the workers does not matter. -/
theorem Routed.settleWorkers_perm (routed : work.Routed area route) (files : Files)
    {order others : List (Fin pool.workers)} (same : order.Perm others) :
    settleWorkers area work.workers files order = settleWorkers area work.workers files others := by
  refine same.foldl_eq' (fun index _ other _ files => ?_) files
  by_cases own : index = other
  · rw [own]
  · exact (routed.independent own).symm.leave files

theorem settleWorkers_cons (workers : Fin pool.workers → Worker) (files : Files)
    (index : Fin pool.workers) (order : List (Fin pool.workers)) :
    settleWorkers area workers files (index :: order)
      = settleWorkers area workers (files.settle ((workers index).tasks area)) order := rfl

theorem settleWorkers_concat (workers : Fin pool.workers → Worker) (files : Files)
    (index : Fin pool.workers) (order : List (Fin pool.workers)) :
    settleWorkers area workers files (order ++ [index])
      = (settleWorkers area workers files order).settle ((workers index).tasks area) :=
  List.foldl_append

theorem settleWorkers_setWorker {index : Fin pool.workers} {order : List (Fin pool.workers)}
    (elsewhere : index ∉ order) (worker : Worker) (files : Files) :
    settleWorkers area (work.setWorker index worker).workers files order
      = settleWorkers area work.workers files order := by
  refine List.foldl_ext _ _ _ fun files other listed => ?_
  rw [workers_setWorker_of_ne]
  rintro rfl
  exact elsewhere listed

/-- Whoever takes a turn, all still leads to the same files. -/
theorem outcome_of_turn (routed : work.Routed area route) (h : Turn area route work next) :
    next.outcome area = work.outcome area := by
  have routedNext := routed.of_turn h
  have first : ∀ index : Fin pool.workers,
      (List.finRange pool.workers).Perm (index :: (List.finRange pool.workers).erase index) :=
    fun index => List.perm_cons_erase (List.mem_finRange index)
  have elsewhere : ∀ index : Fin pool.workers, index ∉ (List.finRange pool.workers).erase index :=
    fun index => (List.nodup_finRange _).not_mem_erase
  cases h with
  | @sent job waiting waits =>
      -- The worker that is sent the job goes last, right before the jobs that still wait.
      have last := (first (route job.1)).trans (List.perm_append_singleton _ _).symm
      rw [outcome, outcome, routedNext.settleWorkers_perm _ last, routed.settleWorkers_perm _ last,
        waits]
      rw [settleWorkers_concat, settleWorkers_concat, ← Files.settle_append,
        ← Files.settle_append, workers_setWorker_self, Worker.tasks_enqueue,
        settleWorkers_setWorker (elsewhere _), List.append_assoc]
      rfl
  | @advanced index worker files does =>
      -- The worker whose turn it is goes first, on the files as they are.
      rw [outcome, outcome, routedNext.settleWorkers_perm _ (first index),
        routed.settleWorkers_perm _ (first index), settleWorkers_cons, settleWorkers_cons,
        workers_setWorker_self, Worker.settle_advance does, settleWorkers_setWorker (elsewhere _)]
      rfl

/-- How many turns can be taken at most: a job is sent, taken and done step by step. -/
def effort (area : Area) (work : Work pool) : Nat :=
  (work.waiting.map fun job => (area.jobSteps job).length + 2).sum
    + ∑ index, (work.workers index).effort area

theorem effort_setWorker (area : Area) (work : Work pool) (index : Fin pool.workers)
    (worker : Worker) :
    ∑ other, ((work.setWorker index worker).workers other).effort area
        + (work.workers index).effort area
      = ∑ other, (work.workers other).effort area + worker.effort area := by
  have others : ∑ other ∈ Finset.univ.erase index,
        ((work.setWorker index worker).workers other).effort area
      = ∑ other ∈ Finset.univ.erase index, (work.workers other).effort area :=
    Finset.sum_congr rfl fun other listed => by
      rw [workers_setWorker_of_ne (Finset.ne_of_mem_erase listed)]
  rw [← Finset.add_sum_erase _ _ (Finset.mem_univ index), others, workers_setWorker_self,
    ← Finset.add_sum_erase Finset.univ (fun other => (work.workers other).effort area)
      (Finset.mem_univ index)]
  omega

theorem effort_of_turn (h : Turn area route work next) : next.effort area < work.effort area := by
  cases h with
  | @sent job waiting waits =>
      have total := effort_setWorker area work (route job.1)
        ((work.workers (route job.1)).enqueue job)
      rw [Worker.effort_enqueue] at total
      simp only [effort, waits, List.map_cons, List.sum_cons]
      omega
  | @advanced index worker files does =>
      have total := effort_setWorker area work index worker
      have less := Worker.effort_of_advance does
      simp only [effort, setWorker] at total ⊢
      omega

theorem accepted_of_turn (h : Turn area route work next) :
    next.accepted + next.waiting.length = work.accepted + work.waiting.length := by
  cases h with
  | sent waits =>
      simp only [waits, List.length_cons]
      omega
  | advanced _ => rfl

theorem isDrained_of_move (stuck : ∀ actor, work.move area route actor = none) :
    work.IsDrained := by
  have idle : ∀ index, work.workers index = .idle := by
    intro index
    have waits := stuck (.worker index)
    cases does : (work.workers index).advance area work.files with
    | none => exact Worker.idle_of_advance does
    | some result => simp [move, does] at waits
  refine ⟨?_, idle⟩
  have waits := stuck .sender
  cases waiting : work.waiting with
  | nil => rfl
  | cons job rest => simp [move, send, waiting, idle, Worker.idle, pool.hasRoom] at waits

/-- What is certain of a pool that works on jobs, wherever the turns taken so far have led. -/
structure Settles (store : Store) (jobs : List Job) (route : Guid → Fin pool.workers)
    (turns : List (Actor pool)) (work : Work pool) : Prop where
  bounded : turns.length ≤ (jobs.map fun job => (store.ordered.jobSteps job).length + 2).sum
  ends : ∃ later drained, work.run store.ordered route later = some drained ∧ drained.IsDrained
  stuck : (∀ actor, work.move store.ordered route actor = none) → work.IsDrained
  accepted : work.IsDrained → work.accepted = Pool.accepted jobs
  files : work.IsDrained → { store with files := work.files } = store.persistAll jobs

/-- What every turn keeps. -/
structure Leads (area : Area) (route : Guid → Fin pool.workers) (begun : Work pool)
    (turns : List (Actor pool)) (work : Work pool) : Prop where
  routed : work.Routed area route
  outcome : work.outcome area = begun.outcome area
  accepted : work.accepted + work.waiting.length = begun.accepted + begun.waiting.length
  bounded : turns.length + work.effort area ≤ begun.effort area

theorem leads_of_run (routed : work.Routed area route) {turns : List (Actor pool)}
    (h : work.run area route turns = some next) : Leads area route work turns next := by
  induction turns generalizing work with
  | nil =>
      cases h
      exact ⟨routed, rfl, rfl, by simp⟩
  | cons actor rest ih =>
      obtain ⟨between, moved, ran⟩ := Option.bind_eq_some_iff.mp h
      have turn := turn_of_move moved
      have later := ih (routed.of_turn turn) ran
      have less := effort_of_turn turn
      have bounded := later.bounded
      refine ⟨later.routed, later.outcome.trans (outcome_of_turn routed turn),
        later.accepted.trans (accepted_of_turn turn), ?_⟩
      rw [List.length_cons]
      omega

theorem exists_drained_of_run (work : Work pool) :
    ∃ turns drained, work.run area route turns = some drained ∧ drained.IsDrained := by
  by_cases stuck : ∀ actor, work.move area route actor = none
  · exact ⟨[], work, rfl, isDrained_of_move stuck⟩
  · obtain ⟨actor, moves⟩ := not_forall.mp stuck
    obtain ⟨next, moved⟩ := Option.ne_none_iff_exists'.mp moves
    have less := effort_of_turn (turn_of_move moved)
    obtain ⟨turns, drained, ran, rests⟩ := exists_drained_of_run next
    exact ⟨actor :: turns, drained, by rw [run, moved]; exact ran, rests⟩
termination_by work.effort area

theorem outcome_start (area : Area) (pool : Pool) (jobs : List Job) (files : Files) :
    (start pool jobs files).outcome area = files.settle (jobs.map area.jobSteps) := by
  have idle : ∀ order : List (Fin pool.workers),
      settleWorkers area (fun _ => Worker.idle) files order = files := by
    intro order
    induction order with
    | nil => rfl
    | cons index rest ih => exact ih
  exact congrArg (Files.settle · _) (idle _)

theorem effort_start (area : Area) (pool : Pool) (jobs : List Job) (files : Files) :
    (start pool jobs files).effort area
      = (jobs.map fun job => (area.jobSteps job).length + 2).sum := by
  simp [effort, start, Worker.idle, Worker.effort]

theorem outcome_of_isDrained (rests : work.IsDrained) : work.outcome area = work.files := by
  have idle : work.workers = fun _ => Worker.idle := funext rests.2
  rw [outcome, rests.1, idle]
  exact outcome_start area pool [] work.files

end Work

theorem settle_jobSteps (store : Store) (jobs : List Job) :
    store.persistAll jobs
      = { store with files := store.files.settle (jobs.map store.ordered.jobSteps) } := by
  induction jobs generalizing store with
  | nil => rfl
  | cons job rest ih =>
      refine (ih (store.persistJob job)).trans ?_
      rw [Store.persistJob_eq_perform]
      rfl

/-- A pool within its limits comes into being. Whatever turns are then taken, it comes to rest, has
accepted all jobs that it has been given, and leaves the files as they are when the jobs are done
one after another. These do not depend on how jobs for different guids are mixed, and what comes of
a guid only on its own jobs. -/
theorem drained_eq_persistAll (store : Store) (jobs : List Job) (workers capacity : Nat)
    (few : workers ≤ workerLimit) (small : capacity ≤ capacityLimit) :
    (∃ pool, start? workers capacity = some pool ∧ pool.workers = max workers 1 ∧
      pool.capacity = max capacity 1 ∧
      ∀ (route : Guid → Fin pool.workers) (turns : List (Actor pool)) (work : Work pool),
        (Work.start _ jobs store.files).run store.ordered route turns = some work →
          Work.Settles store jobs route turns work) ∧
      (∀ reordered : List Job,
        (∀ guid, reordered.filter (·.1 = guid) = jobs.filter (·.1 = guid)) →
          store.persistAll reordered = store.persistAll jobs) ∧
      ∀ guid, (store.outcomes jobs).filter (·.1 = guid)
          = store.outcomes (jobs.filter (·.1 = guid)) ∧
        ∀ place, store.ordered.folder guid <+: place →
          (store.persistAll jobs).files.node? place
            = (store.persistAll (jobs.filter (·.1 = guid))).files.node? place := by
  refine ⟨⟨_, if_pos ⟨few, small⟩, rfl, rfl, fun route turns work ran => ?_⟩,
    fun reordered => store.persistAll_of_filter, fun guid =>
      ⟨store.filter_outcomes jobs guid, fun place => store.node?_persistAll jobs⟩⟩
  have leads := Work.leads_of_run (Work.routed_start jobs store.files) ran
  refine ⟨?_, Work.exists_drained_of_run work, Work.isDrained_of_move, fun rests => ?_,
    fun rests => ?_⟩
  · have bounded := leads.bounded
    rw [Work.effort_start] at bounded
    omega
  · simpa [Work.start, accepted, rests.1] using leads.accepted
  · rw [settle_jobSteps, ← Work.outcome_start, ← leads.outcome, Work.outcome_of_isDrained rests]

/-- Two workers with room for one job each. -/
def pair : Pool := ⟨2, 1, by decide, by decide⟩

/-- An entity is written twice, each time while the other worker has a job that comes to nothing. -/
def twiceAmongOthers : List Job :=
  [(⟨"twice"⟩, .vertexSet ⟨[3, 5]⟩), (⟨".."⟩, .vertexSet ⟨[3, 5]⟩), (⟨"scalar"⟩, .scalar .null),
    (⟨"twice"⟩, .vertexSet ⟨[8]⟩)]

def byLength (guid : Guid) : Fin pair.workers :=
  if guid.text.length = 5 then ⟨0, by decide⟩ else ⟨1, by decide⟩

def takingTurns : List (Actor pair) :=
  let first := Actor.worker (⟨0, by decide⟩ : Fin pair.workers)
  let second := Actor.worker (⟨1, by decide⟩ : Fin pair.workers)
  [.sender, .sender, first, second, .sender, .sender, first, first, second]
    ++ List.replicate 11 first

def othersFirst : List Job :=
  [(⟨"scalar"⟩, .scalar .null), (⟨".."⟩, .vertexSet ⟨[3, 5]⟩), (⟨"twice"⟩, .vertexSet ⟨[3, 5]⟩),
    (⟨"twice"⟩, .vertexSet ⟨[8]⟩)]

theorem filter_othersFirst (guid : Guid) :
    othersFirst.filter (·.1 = guid) = twiceAmongOthers.filter (·.1 = guid) := by
  by_cases twice : (⟨"twice"⟩ : Guid) = guid
  · subst twice
    decide +kernel
  · by_cases scalar : (⟨"scalar"⟩ : Guid) = guid
    · subst scalar
      decide +kernel
    · simp [othersFirst, twiceAmongOthers, List.filter_cons, twice, scalar]

theorem drained_twiceAmongOthers :
    2 ≤ workerLimit ∧ 0 ≤ capacityLimit ∧ start? 2 0 = some pair ∧
      (∃ work : Work pair,
        (Work.start _ twiceAmongOthers Store.overTwoAreas.files).run Store.overTwoAreas.ordered
            byLength takingTurns = some work ∧
          work.IsDrained ∧ work.accepted = 4 ∧
          { Store.overTwoAreas with files := work.files }
            = Store.overTwoAreas.persistAll twiceAmongOthers) ∧
      Store.overTwoAreas.persistAll othersFirst
        = Store.overTwoAreas.persistAll twiceAmongOthers := by
  have ends : ((Work.start _ twiceAmongOthers Store.overTwoAreas.files).run
      Store.overTwoAreas.ordered byLength takingTurns).any
        (fun work => decide work.IsDrained) = true := by
    decide +kernel
  obtain ⟨work, ran, rests⟩ := (Option.any_eq_true _ _).mp ends
  have rests := of_decide_eq_true rests
  obtain ⟨⟨pool, started, _, _, settles⟩, reorders, _⟩ :=
    drained_eq_persistAll Store.overTwoAreas twiceAmongOthers 2 0 (by decide) (by decide)
  have isPair : start? 2 0 = some pair := rfl
  cases started.symm.trans isPair
  have settled := settles byLength takingTurns work ran
  exact ⟨by decide, by decide, isPair,
    ⟨work, ran, rests, settled.accepted rests, settled.files rests⟩,
    reorders othersFirst filter_othersFirst⟩

/-- One worker whose queue would have to count beyond its limit. -/
def countless : Settings :=
  { Settings.default with
    dataDir := "ordered"
    stagingDir := "staging"
    workers := 1
    queueCapacity := 0x2000000000000000 }

/-- The settings are allowed, and yet there is no pool that could accept a job: the server that asks
for it is gone. -/
theorem not_started_countless :
    countless.validate = .ok () ∧ start? countless.workers countless.queueCapacity = none ∧
      (CommandLine.startServer countless (fun _ => none) Store.twoAreas).2.1 = .crashed := by
  refine ⟨rfl, rfl, ?_⟩
  decide +kernel

end Pool
end GraphEngine
