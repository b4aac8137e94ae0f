import GraphEngine.Persistence

/-!
A pool at work.

The sender hands the jobs over in their order, each into the queue of the worker to which its guid
is routed, and waits while that queue is full. A worker takes the jobs of its queue in their order
and does each step by step. The actors take turns in any order whatever.
-/
namespace GraphEngine

/-- What there is to do for a job. Scalars are not written, and an unsafe guid has no place. -/
def Area.jobSteps (area : Area) (job : Job) : List Files.Step :=
  if job.2.isScalar then []
  else match area.saveSteps job.1 job.2 with
    | .ok steps => steps
    | .error _ => []

namespace Pool

structure Worker where
  queue : List Job
  /-- What is left of the job at hand. -/
  rest : List Files.Step
deriving DecidableEq

namespace Worker

def idle : Worker := ⟨[], []⟩

def enqueue (worker : Worker) (job : Job) : Worker :=
  { worker with queue := worker.queue ++ [job] }

/-- The next thing the worker does. A job ends with its last step or with one that fails. -/
def advance (area : Area) (worker : Worker) (files : Files) : Option (Worker × Files) :=
  match worker with
  | ⟨queue, step :: rest⟩ =>
      match step.apply files with
      | .ok files => some (⟨queue, rest⟩, files)
      | .error _ => some (⟨queue, []⟩, files)
  | ⟨job :: queue, []⟩ => some (⟨queue, area.jobSteps job⟩, files)
  | ⟨[], []⟩ => none

end Worker

structure Work (pool : Pool) where
  waiting : List Job
  accepted : Nat
  workers : Fin pool.workers → Worker
  files : Files

inductive Actor (pool : Pool) where
  | sender
  | worker (index : Fin pool.workers)
deriving DecidableEq

namespace Work

variable {pool : Pool}

def start (pool : Pool) (jobs : List Job) (files : Files) : Work pool :=
  ⟨jobs, 0, fun _ => .idle, files⟩

def setWorker (work : Work pool) (index : Fin pool.workers) (worker : Worker) : Work pool :=
  { work with workers := fun other => if other = index then worker else work.workers other }

def send (route : Guid → Fin pool.workers) (work : Work pool) : Option (Work pool) :=
  match work.waiting with
  | [] => none
  | job :: waiting =>
      let worker := work.workers (route job.1)
      if worker.queue.length < pool.capacity then
        some { work.setWorker (route job.1) (worker.enqueue job) with
          waiting, accepted := work.accepted + 1 }
      else none

/-- One turn of an actor that has something to do and need not wait. -/
def move (area : Area) (route : Guid → Fin pool.workers) (work : Work pool) :
    Actor pool → Option (Work pool)
  | .sender => work.send route
  | .worker index => do
      let (worker, files) ← (work.workers index).advance area work.files
      return { work.setWorker index worker with files }

/-- The actors take these turns, one after another. -/
def run (area : Area) (route : Guid → Fin pool.workers) (work : Work pool) :
    List (Actor pool) → Option (Work pool)
  | [] => some work
  | actor :: turns => do (← work.move area route actor).run area route turns

/-- Nothing waits, no queue holds anything, and no job is at hand. -/
def IsDrained (work : Work pool) : Prop :=
  work.waiting = [] ∧ ∀ index, work.workers index = .idle

instance (work : Work pool) : Decidable work.IsDrained :=
  inferInstanceAs (Decidable (_ ∧ _))

end Work
end Pool
end GraphEngine
