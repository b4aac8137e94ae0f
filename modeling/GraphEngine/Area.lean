import GraphEngine.Entity.Codec
import GraphEngine.Files.Directory
import GraphEngine.Files.Step

/-!
Areas: directories in which every entity has a directory of its own, named by its guid.

The ordered area holds entities as bytes. The marker beside the data is removed before a save
touches the data and written after it, so an entity counts as stored only when its data is whole.
The staging area holds entities as JSON, for programs that are not part of the engine.
-/
namespace GraphEngine

/-- An entity that has been written out for a helper. -/
structure Staged where
  place : String
  text : String
deriving DecidableEq

structure Area where
  /-- The directory as messages show it. -/
  name : String
  path : Path
deriving DecidableEq

namespace Area

def markerName : String := "_SUCCESS"

def dataName : String := "data.sphx"

def stagedName : String := "data.json"

def temporaryName (name : String) : String := name ++ ".tmp"

/-- The directory of a guid; only safe guids have one. -/
def directory (area : Area) (guid : Guid) : Except EngineError Path := do
  guid.check
  return area.path ++ [guid.text]

/-- The text of a file's place, as messages and helpers see it. -/
def placeText (area : Area) (guid : Guid) (file : String) : String :=
  Path.joinText (Path.joinText area.name guid.text) file

/-- The area in the directory of that name, which is made if need be. `role` says in a message
what the area is for. -/
def prepare (name role : String) (files : Files) : Except EngineError Area × Files :=
  match files.prepareDirectory name with
  | (.ok path, files) => (.ok ⟨name, path⟩, files)
  | (.error fault, files) =>
      (.error (.io (s!"Cannot create {role} data dir " ++ name ++ ": " ++ fault.message)), files)

/-- The whole content comes to stand at `directory/name`, through a temporary file. -/
def replaceSteps (directory : Path) (name : String) (bytes : List UInt8) : List Files.Step :=
  let temporary := directory ++ [temporaryName name]
  [.createFile temporary, .append temporary bytes, .rename temporary (directory ++ [name])]

def performAll (steps : Except EngineError (List Files.Step)) (files : Files) :
    Except EngineError Unit × Files :=
  match steps with
  | .error error => (.error error, files)
  | .ok steps => ((files.perform steps).1.mapError SystemFault.toError, (files.perform steps).2)

def saveSteps (area : Area) (guid : Guid) (entity : Entity) :
    Except EngineError (List Files.Step) := do
  let directory ← area.directory guid
  let marker := directory ++ [markerName]
  return [.makeDirectories directory, .clear marker]
    ++ replaceSteps directory dataName entity.encode ++ [.createFile marker]

def save (area : Area) (guid : Guid) (entity : Entity) (files : Files) :
    Except EngineError Unit × Files :=
  performAll (area.saveSteps guid entity) files

/-- Whether the guid has been stored to the end. -/
def contains (area : Area) (guid : Guid) (files : Files) : Except EngineError Bool := do
  let directory ← area.directory guid
  (files.has (directory ++ [markerName])).mapError SystemFault.toError

def readData (area : Area) (guid : Guid) (files : Files) : Except EngineError Content := do
  let directory ← area.directory guid
  match files.read (directory ++ [dataName]) with
  | .ok content => .ok content
  | .error fault =>
      .error (.io ("Cannot read " ++ area.placeText guid dataName ++ ": " ++ fault.message))

/-- The size and the header are looked at before the rest of the data. -/
def decodeAs (expected : Option Kind) (guid : Guid) (content : Content) :
    Except EngineError Entity := do
  Entity.checkSize content.size
  let kind ← Entity.headerKind content.size (content.first Format.headerSize)
  match expected with
  | some expected =>
      if kind = expected then Entity.decode content.toList
      else .error (.wrongKind guid expected kind)
  | none => Entity.decode content.toList

/-- The stored entity, which must be of the kind if one is expected. -/
def load (area : Area) (guid : Guid) (expected : Option Kind) (files : Files) :
    Except EngineError Entity := do
  if ← area.contains guid files then
    let content ← area.readData guid files
    (decodeAs expected guid content).mapError (EngineError.underGuid guid)
  else .error (.entityNotFound guid)

def stageSteps (area : Area) (guid : Guid) (entity : Entity) :
    Except EngineError (List Files.Step) := do
  let directory ← area.directory guid
  return .makeDirectories directory
    :: replaceSteps directory stagedName (Utf8.encode entity.json)

def stage (area : Area) (guid : Guid) (entity : Entity) (files : Files) :
    Except EngineError Staged × Files :=
  let (result, files) := performAll (area.stageSteps guid entity) files
  (result.map fun _ => ⟨area.placeText guid stagedName, entity.json⟩, files)

end Area
end GraphEngine
