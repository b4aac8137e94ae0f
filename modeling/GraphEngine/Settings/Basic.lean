import GraphEngine.Error

/-!
Settings of a server, and the layers in which they are given.

The environment stands above the file, and the command line above both.
-/
namespace GraphEngine

structure Settings where
  dataDir : String
  stagingDir : String
  host : String
  port : UInt16
  workers : Nat
  queueCapacity : Nat
  node2VecCommand : List String
deriving DecidableEq

/-- What is given on the command line. -/
structure Overrides where
  host : Option String
  port : Option UInt16
  dataDir : Option String
  stagingDir : Option String
deriving DecidableEq

namespace Overrides

def none : Overrides := ⟨.none, .none, .none, .none⟩

end Overrides

/-- The variables that are set. -/
abbrev Environment := String → Option String

namespace Settings

def default : Settings where
  dataDir := "sphynx-data/ordered"
  stagingDir := "sphynx-data/unordered"
  host := "127.0.0.1"
  port := 8080
  workers := 2
  queueCapacity := 1024
  node2VecCommand := ["python", "node2vec.py"]

def address (settings : Settings) : String := settings.host ++ ":" ++ toString settings.port

/-- One or more decimal digits, after a plus sign or without one. -/
def port? (text : String) : Option UInt16 :=
  let digits : List Char := match text.toList with
    | '+' :: digits => digits
    | digits => digits
  let value := digits.foldl (fun value c => 10 * value + (c.toNat - '0'.toNat)) 0
  if digits ≠ [] ∧ digits.all Char.isDigit ∧ value < UInt16.size then some (UInt16.ofNat value)
  else none

def dataDirVariable : String := "SPHYNX_DATA_DIR"

def stagingDirVariable : String := "UNORDERED_SPHYNX_DATA_DIR"

def hostVariable : String := "SPHYNX_HOST"

def portVariable : String := "SPHYNX_PORT"

def variableNames : List String :=
  [dataDirVariable, stagingDirVariable, hostVariable, portVariable]

def portLayer (settings : Settings) (environment : Environment) :
    Except EngineError UInt16 :=
  match environment portVariable with
  | none => .ok settings.port
  | some text =>
      match port? text with
      | some port => .ok port
      | none => .error (.invalidParameter portVariable (.notPort text))

def withEnvironment (settings : Settings) (environment : Environment) :
    Except EngineError Settings := do
  return { settings with
    dataDir := (environment dataDirVariable).getD settings.dataDir
    stagingDir := (environment stagingDirVariable).getD settings.stagingDir
    host := (environment hostVariable).getD settings.host
    port := ← settings.portLayer environment }

def withOverrides (settings : Settings) (overrides : Overrides) : Settings :=
  { settings with
    dataDir := overrides.dataDir.getD settings.dataDir
    stagingDir := overrides.stagingDir.getD settings.stagingDir
    host := overrides.host.getD settings.host
    port := overrides.port.getD settings.port }

def validate (settings : Settings) : Except EngineError Unit :=
  if settings.workers = 0 then .error (.invalidParameter "persist_workers" .belowOne)
  else if settings.queueCapacity = 0 then
    .error (.invalidParameter "persist_queue_capacity" .belowOne)
  else .ok ()

/-- All layers over the settings of the file. -/
def resolve (base : Settings) (environment : Environment) (overrides : Overrides) :
    Except EngineError Settings := do
  let settings := (← base.withEnvironment environment).withOverrides overrides
  settings.validate
  return settings

end Settings
end GraphEngine
