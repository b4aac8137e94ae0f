import GraphEngine.Entity.Format
import GraphEngine.Guid
import GraphEngine.Kind
import GraphEngine.Payload.Layout
import GraphEngine.Text.Quoted

/-!
What can go wrong in the engine, and how it is worded.

Errors are kept as causes; `message` is the only place where one becomes text.
-/
namespace GraphEngine

/-- Why an entity, or bytes that should be one, are refused. -/
inductive Corruption where
  | lengthsDiffer (sources targets ids : Nat)
  | negativeIndex (index : Int64)
  | flagsDiffer (values flags : Nat)
  | outsideSets (edge : Nat) (source target : Int64) (sourceCount targetCount : Nat)
  | outsideSources (source : Int64) (sourceCount : Nat)
  | tooShort (size : Nat)
  | badMagic
  | badVersion (version : UInt8)
  | unknownTag (tag : UInt8)
  | tooLarge (size : Nat)
  | badPayload (fault : Payload.Fault)
  | trailingBytes (count : Nat)
  | scalarNotJson
  /-- A cause in an entity of which only the kind is known. -/
  | inKind (kind : Kind) (cause : Corruption)
  /-- A cause in the entity stored under a guid. -/
  | underGuid (guid : Guid) (cause : Corruption)
  | stated (reason : String)
deriving DecidableEq

def Corruption.message : Corruption → String
  | .lengthsDiffer sources targets ids =>
      s!"edge bundle sequences differ in length: src={sources} dst={targets} edge_mapping={ids}"
  | .negativeIndex index => s!"negative vertex index {index} in edge bundle"
  | .flagsDiffer values flags =>
      s!"attribute has {values} values but {flags} definedness flags"
  | .outsideSets edge source target sourceCount targetCount =>
      s!"edge {edge} ({source} -> {target}) is outside its vertex sets " ++
        s!"({sourceCount} / {targetCount} vertices)"
  | .outsideSources source sourceCount =>
      s!"edge source {source} is outside the source vertex set ({sourceCount} vertices)"
  | .tooShort size =>
      s!"Data too short: minimum {Format.headerSize} bytes required, got {size}"
  | .badMagic => "Invalid magic bytes"
  | .badVersion version => s!"Unsupported version: {version} (expected {Format.version})"
  | .unknownTag tag => s!"Unknown variant tag: {tag}"
  | .tooLarge size =>
      s!"Data size {size} bytes exceeds maximum allowed {Format.sizeLimit} bytes"
  | .badPayload fault => "Failed to decode payload: " ++ fault.message
  | .trailingBytes count => s!"{count} trailing bytes after payload"
  | .scalarNotJson => "Scalar payload is not JSON: the text is not one JSON value"
  | .inKind kind cause => kind.name ++ ": " ++ cause.message
  | .underGuid guid cause => cause.message ++ " (guid " ++ guid.text ++ ")"
  | .stated reason => reason

/-- Why a parameter is refused. -/
inductive ParameterFault where
  | missing
  | notNumber
  | notInteger
  | notString
  | notStringList
  | notPort (text : String)
  | belowOne
  | stated (reason : String)
deriving DecidableEq

def ParameterFault.message : ParameterFault → String
  | .missing => "missing"
  | .notNumber => "expected a number"
  | .notInteger => "expected an integer"
  | .notString => "expected a string"
  | .notStringList => "expected a list of strings"
  | .notPort text => "`" ++ text ++ "` is not a port number"
  | .belowOne => "must be at least 1"
  | .stated reason => reason

inductive EngineError where
  | unsupportedOperation (name : String)
  | entityNotFound (guid : Guid)
  /-- What was found is a kind of entity, or nothing. -/
  | typeMismatch (guid : Guid) (expected : Kind) (found : String)
  | corruptEntity (cause : Corruption)
  | helperFailure (command status stderr : String)
  | invalidDescriptor (reason : String)
  | invalidParameter (name : String) (fault : ParameterFault)
  | unknownSlot (slot : String)
  | duplicateOperation (name : String)
  | invalidGuid (guid : Guid)
  | io (reason : String)
  | serialization (reason : String)
deriving DecidableEq

namespace EngineError

/-- The name of the error in replies. -/
def kind : EngineError → String
  | .unsupportedOperation _ => "UnsupportedOperation"
  | .entityNotFound _ => "EntityNotFound"
  | .typeMismatch .. => "TypeMismatch"
  | .corruptEntity _ => "CorruptEntity"
  | .helperFailure .. => "ExternalProcessFailure"
  | .invalidDescriptor _ => "InvalidDescriptor"
  | .invalidParameter .. => "InvalidParameter"
  | .unknownSlot _ => "UnknownSlot"
  | .duplicateOperation _ => "DuplicateOperation"
  | .invalidGuid _ => "InvalidGuid"
  | .io _ => "Io"
  | .serialization _ => "Serialization"

def message : EngineError → String
  | .unsupportedOperation name => "Unsupported operation: " ++ name
  | .entityNotFound guid => "Entity not found: " ++ guid.text
  | .typeMismatch guid expected found =>
      "Entity " ++ guid.text ++ " is " ++ found ++ ", expected " ++ expected.name
  | .corruptEntity cause => "Corrupt entity: " ++ cause.message
  | .helperFailure command status stderr =>
      "External process `" ++ command ++ "` failed (" ++ status ++ "): " ++ stderr
  | .invalidDescriptor reason => "Invalid operation descriptor: " ++ reason
  | .invalidParameter name fault => "Invalid parameter `" ++ name ++ "`: " ++ fault.message
  | .unknownSlot slot => "Unknown slot: " ++ slot
  | .duplicateOperation name => "Operation registered twice: " ++ name
  | .invalidGuid guid => "Invalid guid: " ++ Quoted.quote guid.text
  | .io reason => "I/O error: " ++ reason
  | .serialization reason => "Serialization error: " ++ reason

def unknownInput (name : String) : EngineError := .unknownSlot ("input `" ++ name ++ "`")

def unknownOutput (name : String) : EngineError := .unknownSlot ("output `" ++ name ++ "`")

/-- An entity of one kind where another is expected. -/
def wrongKind (guid : Guid) (expected found : Kind) : EngineError :=
  .typeMismatch guid expected found.name

/-- A corrupt entity is reported together with the guid under which it was found. -/
def underGuid (guid : Guid) : EngineError → EngineError
  | .corruptEntity cause => .corruptEntity (.underGuid guid cause)
  | error => error

end EngineError

/-- Only a safe guid may name a directory. -/
def Guid.check (guid : Guid) : Except EngineError Unit :=
  if guid.isSafe then .ok () else .error (.invalidGuid guid)

end GraphEngine
