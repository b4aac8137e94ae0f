import GraphEngine.Session
import GraphEngine.Shell.Evaluation

/-!
Running helpers, which are shells with their scripts or single utilities.

What is nested too deeply ends as a process does that has no room left on its stack.
-/
namespace GraphEngine.Shell

open Effect

/-- Runs tasks up to a depth. -/
def runUpTo : Nat → Task → Effect Unit
  | 0, _ => leave (.killed ⟨11⟩)
  | depth + 1, task => Inner.perform ⟨runUpTo depth⟩ task

def depthLimit : Nat := 5000

/-- There is nothing to read, and what is written is collected. -/
def startMachine (files : Files) : Machine where
  files := files
  streams := #[.nowhere, .collected [], .collected []]
  state :=
    { name := "sh"
      arguments := []
      bindings := .ofList [("HOME", Variable.mk "/root" true), ("PATH", .mk "/usr/bin:/bin" true)]
      functions := ∅
      descriptors := .ofList [(0, 0), (1, 1), (2, 2)]
      endsOnFailure := false
      status := 0
      line := 0
      commandName := none
      lastWill := none }

def outcome (result : Except Leave (Except SystemFault Ending)) (machine : Machine) :
    HelperOutcome :=
  let written (stream : Nat) := Raw.toBytes (collected machine.streams[stream]?)
  match result with
  | .ok (.error fault) => .notStarted fault.message
  | .ok (.ok (.killed signal)) => .killed signal (written 1) (written 2)
  | .ok (.ok (.exited status)) => .finished status (written 1) (written 2)
  | .error _ => .finished 1 (written 1) (written 2)

def run : Helper := fun files words =>
  if words.any fun word => word.toList.contains '\x00' then
    (.notStarted "nul byte found in provided data", files)
  else
    let start := Inner.launch ⟨runUpTo depthLimit⟩ (words.map Raw.ofText)
    let (result, machine) := start.run.run (startMachine files)
    (outcome result machine, { machine.files with here := files.here })

end GraphEngine.Shell
