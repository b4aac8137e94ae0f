import GraphEngine.Files.Directory
import GraphEngine.Shell.Script
import GraphEngine.Signal
import GraphEngine.Text.Raw

/-!
What commands act on: files, streams, and the shell that runs them.

Processes run one after another, each to its end, so a pipe is a stream that is first filled and
then read. Shells that run inside one another share files and streams and nothing else.
-/
namespace GraphEngine.Shell

/-- Where bytes go or come from. All texts are raw. -/
inductive Stream where
  /-- What is written is lost, and there is nothing to read. -/
  | nowhere
  /-- What has been written so far, the last piece first. -/
  | collected (pieces : List String)
  /-- What is still to be read. -/
  | supplied (rest : List Char)
  /-- What is written is added to the file. -/
  | file (path : Path)

structure Variable where
  value : String
  /-- Whether programs get the variable. -/
  isExported : Bool

/-- What belongs to one shell. -/
structure State where
  name : String
  arguments : List String
  bindings : Std.ExtTreeMap String Variable
  functions : Std.ExtTreeMap String Command
  /-- The stream of each open descriptor. -/
  descriptors : Std.ExtTreeMap Nat Nat
  /-- A failure that nobody tests ends the shell. -/
  endsOnFailure : Bool
  status : Nat
  /-- The line of the command that runs. -/
  line : Nat
  /-- The name of the shell's own command that runs. -/
  commandName : Option String
  /-- What is done at the end of the shell. -/
  lastWill : Option String

structure Machine where
  files : Files
  streams : Array Stream
  state : State

/-- Why a command does not go on to the one after it. -/
inductive Leave where
  /-- That many loops are left, the last of which may go on. -/
  | loops (count : Nat) (goesOn : Bool)
  | function
  | shell
  /-- Something was wrong that ends a shell, unless a command of the shell itself was the cause. -/
  | fault
  | killed (signal : Signal)

/-- How a process ended. -/
inductive Ending where
  | exited (status : Nat)
  | killed (signal : Signal)

namespace Ending

/-- The status that a shell makes of it. -/
def status : Ending → Nat
  | .exited status => status
  | .killed signal => 128 + signal.number

end Ending

abbrev Effect := ExceptT Leave (StateM Machine)

namespace Effect

variable {α : Type}

/-- The number of the only process that can be sent a signal. -/
def processNumber : Nat := 4242

def state : Effect State := do return (← get).state

def modifyState (change : State → State) : Effect Unit :=
  modify fun machine => { machine with state := change machine.state }

def addStream (stream : Stream) : Effect Nat := do
  let index := (← get).streams.size
  modify fun machine => { machine with streams := machine.streams.push stream }
  return index

def setStream (index : Nat) (stream : Stream) : Effect Unit :=
  modify fun machine => { machine with streams := machine.streams.setIfInBounds index stream }

def streamOf (descriptor : Nat) : Effect (Option (Nat × Stream)) := do
  let machine ← get
  return machine.state.descriptors[descriptor]?.bind fun index =>
    machine.streams[index]?.map fun stream => (index, stream)

def connect (descriptor : Nat) (stream? : Option Nat) : Effect Unit :=
  modifyState fun state =>
    { state with descriptors := match stream? with
        | some index => state.descriptors.insert descriptor index
        | none => state.descriptors.erase descriptor }

def write (descriptor : Nat) (raw : String) : Effect Unit := do
  match ← streamOf descriptor with
  | some (index, .collected pieces) => setStream index (.collected (raw :: pieces))
  | some (_, .file path) =>
      if let .ok files := (← get).files.appendBytes path (Raw.toBytes raw) then
        modify fun machine => { machine with files }
  | _ => return

def put (raw : String) : Effect Unit := write 1 raw

/-- What a stream holds by now. -/
def collected (stream? : Option Stream) : String :=
  match stream? with
  | some (.collected pieces) => String.join pieces.reverse
  | _ => ""

/-- All that is left to read up to a character, with that character. -/
def readUpTo (last? : Option Char) : Effect (List Char) := do
  match ← streamOf 0 with
  | some (index, .supplied rest) =>
      let before := rest.takeWhile fun c => some c ≠ last?
      setStream index (.supplied (rest.drop (before.length + 1)))
      return rest.take (before.length + 1)
  | _ => return []

def leave (leave : Leave) : Effect α := throw leave

def setStatus (status : Nat) : Effect Unit := modifyState fun state => { state with status }

/-- A message of the shell, with its name and the line. -/
def warn (message : String) : Effect Unit := do
  let state ← state
  let command := state.commandName.elim "" (· ++ ": ")
  write 2 (state.name ++ ": " ++ toString state.line ++ ": " ++ command ++ message ++ "\n")

/-- A message after which nothing goes on. -/
def fault (message : String) : Effect α := do
  warn message
  setStatus 2
  leave .fault

def valueOf (name : String) : Effect (Option String) := do
  return (← state).bindings[name]?.map (·.value)

def setVariable (name value : String) : Effect Unit :=
  modifyState fun state =>
    let isExported := (state.bindings[name]?.map (·.isExported)).getD false
    { state with bindings := state.bindings.insert name ⟨value, isExported⟩ }

def exportVariable (name : String) : Effect Unit :=
  modifyState fun state =>
    let value := (state.bindings[name]?.map (·.value)).getD ""
    { state with bindings := state.bindings.insert name ⟨value, true⟩ }

/-- The result of an action, whatever it leaves. -/
def attempt (action : Effect α) : Effect (Except Leave α) :=
  ExceptT.mk do return .ok (← action.run)

/-- An action, and whatever it leaves, something that is done in any case. -/
def followedBy (action : Effect Unit) (afterwards : Effect Unit) : Effect Unit := do
  let result ← attempt action
  afterwards
  if let .error cause := result then leave cause

/-- An action in a process of its own, whose effects on the shell are taken back afterwards. -/
def isolated (action : Effect Unit) : Effect Ending := do
  let before ← get
  let result ← attempt action
  let after ← get
  set { after with state := before.state, files := { after.files with here := before.files.here } }
  return match result with
    | .error (.killed signal) => .killed signal
    | _ => .exited (after.state.status % 256)

end Effect
end GraphEngine.Shell
