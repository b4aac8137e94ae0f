import GraphEngine.Store

/-!
Writing computed entities to the ordered area.

A pool of workers takes jobs from bounded queues. All jobs for one guid go to one worker, which
takes them in order, so what the files hold afterwards is what they would hold had the jobs been
done one after another. A job that fails changes nothing for the others.
-/
namespace GraphEngine

/-- There is at least one worker, and each queue has room for at least one job. -/
structure Pool where
  workers : Nat
  capacity : Nat
  hasWorker : 0 < workers
  hasRoom : 0 < capacity
deriving DecidableEq

abbrev Job := Guid × Entity

namespace Pool

/-- The most workers for which there can be a table of queues. -/
def workerLimit : Nat := 0x0fffffffffffffff

/-- The most jobs for which a queue can keep count. -/
def capacityLimit : Nat := 0x1fffffffffffffff

/-- Beyond the limits no pool comes into being: whoever asks for it ends on the spot. -/
def start? (workers capacity : Nat) : Option Pool :=
  if workers ≤ workerLimit ∧ capacity ≤ capacityLimit then
    some ⟨max workers 1, max capacity 1, Nat.le_max_right .., Nat.le_max_right ..⟩
  else none

/-- A full queue makes a job wait and never turns it away. -/
def accepted (jobs : List Job) : Nat := jobs.length

end Pool

namespace Store

def persistJob (store : Store) (job : Job) : Store := (store.persist job.1 job.2).2

/-- The store once all jobs have been done. -/
def persistAll (store : Store) (jobs : List Job) : Store := jobs.foldl persistJob store

/-- The jobs one by one up to the first that fails. -/
def persistEach (store : Store) : List Job → Except EngineError Unit × Store
  | [] => (.ok (), store)
  | job :: rest =>
      match store.persist job.1 job.2 with
      | (.ok _, store) => store.persistEach rest
      | (.error error, store) => (.error error, store)

end Store
end GraphEngine
