import GraphEngine.Area
import GraphEngine.Signal

/-!
Bodies of operations.

A body never holds the store. It is a program of calls: it asks for its inputs and parameters,
hands over its outputs, and may stage an input for a helper and run that helper. What answers the
calls is said elsewhere, so statements about every body are statements about every program.
-/
namespace GraphEngine

/-- How a helper ended. -/
inductive HelperOutcome where
  | notStarted (fault : String)
  | finished (status : Nat) (stdout stderr : List UInt8)
  /-- Another process, or the helper itself, put an end to it. -/
  | killed (signal : Signal) (stdout stderr : List UInt8)
deriving DecidableEq

inductive Call where
  | input (name : String)
  | parameter (name : String)
  | hasOutput (name : String)
  /-- The output handed over so far. -/
  | produced (name : String)
  | output (name : String) (entity : Entity)
  /-- An input is written out for a helper. -/
  | stage (name : String)
  | runHelper (command : List String)
  /-- A remark for whoever asked for the computation. -/
  | note (remark : Except EngineError Json)

/-- What the answer to a call is. -/
def Call.Reply : Call → Type
  | .input _ => Except EngineError (Guid × Entity)
  | .parameter _ => Option Json
  | .hasOutput _ => Bool
  | .produced _ => Option Entity
  | .output _ _ => Except EngineError Unit
  | .stage _ => Except EngineError Staged
  | .runHelper _ => HelperOutcome
  | .note _ => Unit

inductive Program (α : Type) where
  | done (result : Except EngineError α)
  | call (request : Call) (next : request.Reply → Program α)

namespace Program

variable {α β : Type}

/-- The second program goes on where the first succeeds. -/
def bind : Program α → (α → Program β) → Program β
  | .done (.ok value), next => next value
  | .done (.error error), _ => .done (.error error)
  | .call request resume, next => .call request fun reply => (resume reply).bind next

instance : Monad Program where
  pure value := .done (.ok value)
  bind := bind

def fail (error : EngineError) : Program α := .done (.error error)

/-- A program that goes on even where the given one fails. -/
def attempt : Program α → Program (Except EngineError α)
  | .done result => .done (.ok result)
  | .call request resume => .call request fun reply => (resume reply).attempt

def ofExcept : Except EngineError α → Program α := .done

def input (name : String) : Program (Guid × Entity) := .call (.input name) .done

def parameter? (name : String) : Program (Option Json) :=
  .call (.parameter name) fun value => .done (.ok value)

def hasOutput (name : String) : Program Bool :=
  .call (.hasOutput name) fun value => .done (.ok value)

def produced? (name : String) : Program (Option Entity) :=
  .call (.produced name) fun value => .done (.ok value)

def output (name : String) (entity : Entity) : Program Unit :=
  .call (.output name entity) .done

def stage (name : String) : Program Staged := .call (.stage name) .done

def runHelper (command : List String) : Program HelperOutcome :=
  .call (.runHelper command) fun outcome => .done (.ok outcome)

def note (remark : Except EngineError Json) : Program Unit :=
  .call (.note remark) fun _ => .done (.ok ())

def vertexSet (name : String) : Program VertexSet := do
  let (guid, entity) ← input name
  ofExcept (entity.asVertexSet guid)

def edgeBundle (name : String) : Program EdgeBundle := do
  let (guid, entity) ← input name
  ofExcept (entity.asEdgeBundle guid)

def stringAttribute (name : String) : Program (Attribute String) := do
  let (guid, entity) ← input name
  ofExcept (entity.asStringAttribute guid)

def scalar (name : String) : Program Json := do
  let (guid, entity) ← input name
  ofExcept (entity.asScalar guid)

/-- The size of an input that must be of the kind. -/
def sizeOf (name : String) (kind : Kind) : Program Nat := do
  let (guid, entity) ← input name
  ofExcept (entity.expect guid kind)
  return entity.size

def asNumber? : Json → Option Double
  | .number value => some value.toDouble
  | _ => none

def asLong? : Json → Option Int64
  | .number value => value.toInt64?
  | _ => none

def asText? : Json → Option String
  | .string text => some text
  | _ => none

def asTexts? : Json → Option (List String)
  | .array items => items.mapM asText?
  | _ => none

/-- A parameter that must be there and be read as `read?` reads it. -/
def parameterAs (read? : Json → Option α) (otherwise : ParameterFault) (name : String) :
    Program α := do
  match ← parameter? name with
  | none => fail (.invalidParameter name .missing)
  | some value =>
      match read? value with
      | some value => return value
      | none => fail (.invalidParameter name otherwise)

def number (name : String) : Program Double := parameterAs asNumber? .notNumber name

/-- An absent number may also be given as null. -/
def optionalNumber (name : String) : Program (Option Double) := do
  match ← parameter? name with
  | none | some .null => return none
  | some _ => return some (← number name)

def long (name : String) : Program Int64 := parameterAs asLong? .notInteger name

def text (name : String) : Program String := parameterAs asText? .notString name

def texts (name : String) : Program (List String) := parameterAs asTexts? .notStringList name

end Program
end GraphEngine
