import GraphEngine.Descriptor
import GraphEngine.Program

/-!
One run of a body.

A session holds what the run is given: the descriptor, the entities bound to its inputs, the area
for staging and the helpers. What the run changes is its progress: the outputs handed over, the
files, and the remarks.
-/
namespace GraphEngine

/-- How a command ends when it is run where there are these files, and what it leaves there. -/
abbrev Helper := Files → List String → HelperOutcome × Files

abbrev Outputs := Std.ExtTreeMap String Entity

structure Session where
  descriptor : Descriptor
  inputs : Std.ExtTreeMap String (Guid × Entity)
  staging : Area
  helper : Helper

structure Progress where
  outputs : Outputs
  files : Files
  /-- The last remark first. -/
  remarks : List (Except EngineError Json)

namespace Session

def input (session : Session) (name : String) : Except EngineError (Guid × Entity) :=
  match session.inputs[name]? with
  | some bound => .ok bound
  | none => .error (.unknownInput name)

def hasOutput (session : Session) (name : String) : Bool :=
  session.descriptor.outputs.contains name

def stage (session : Session) (name : String) (files : Files) :
    Except EngineError Staged × Files :=
  match session.input name with
  | .ok (guid, entity) => session.staging.stage guid entity files
  | .error error => (.error error, files)

def answer (session : Session) (progress : Progress) :
    (request : Call) → request.Reply × Progress
  | .input name => (session.input name, progress)
  | .parameter name => (session.descriptor.parameter? name, progress)
  | .hasOutput name => (session.hasOutput name, progress)
  | .produced name => (progress.outputs[name]?, progress)
  | .output name entity =>
      if session.hasOutput name then
        (.ok (), { progress with outputs := progress.outputs.insert name entity })
      else (.error (.unknownOutput name), progress)
  | .stage name =>
      let (result, files) := session.stage name progress.files
      (result, { progress with files })
  | .runHelper command =>
      let (outcome, files) := session.helper progress.files command
      (outcome, { progress with files })
  | .note remark => ((), { progress with remarks := remark :: progress.remarks })

def run {α : Type} (session : Session) : Program α → Progress → Except EngineError α × Progress
  | .done result, progress => (result, progress)
  | .call request resume, progress =>
      let (reply, progress) := session.answer progress request
      session.run (resume reply) progress

end Session
end GraphEngine
