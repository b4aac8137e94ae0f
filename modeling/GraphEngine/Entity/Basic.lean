import GraphEngine.Error
import GraphEngine.Json.Basic

/-!
The data that the engine holds: vertex sets, edge bundles, attributes and scalars.

A vertex set is the local range `0 … size - 1` with an outside identifier for each vertex. An
edge bundle runs between two of them. An attribute has a value and a flag for each slot; where the
flag is off the value means nothing, and `get?` and `definedSlots` do not show it.
-/
namespace GraphEngine

structure VertexSet where
  externalIds : List Int64
deriving DecidableEq

namespace VertexSet

def size (vertices : VertexSet) : Nat := vertices.externalIds.length

def isEmpty (vertices : VertexSet) : Bool := vertices.externalIds.isEmpty

/-- Whether the index is one of the local range. -/
def contains (vertices : VertexSet) (index : Int64) : Bool :=
  decide (0 ≤ index) && index.toInt < vertices.size

end VertexSet

structure EdgeBundle where
  sources : List Int64
  targets : List Int64
  externalIds : List Int64
deriving DecidableEq

namespace EdgeBundle

def size (bundle : EdgeBundle) : Nat := bundle.sources.length

def isEmpty (bundle : EdgeBundle) : Bool := bundle.sources.isEmpty

/-- The three sequences must be of one length, and no end may be negative. -/
def fault? (bundle : EdgeBundle) : Option Corruption :=
  if bundle.sources.length ≠ bundle.targets.length ∨
      bundle.sources.length ≠ bundle.externalIds.length then
    some (.lengthsDiffer bundle.sources.length bundle.targets.length bundle.externalIds.length)
  else ((bundle.sources ++ bundle.targets).find? (· < 0)).map .negativeIndex

def make (sources targets externalIds : List Int64) : Except EngineError EdgeBundle :=
  let bundle : EdgeBundle := ⟨sources, targets, externalIds⟩
  match bundle.fault? with
  | some cause => .error (.corruptEntity cause)
  | none => .ok bundle

/-- The ends of each edge as unsigned words, for as long as both sequences last. -/
def edges (bundle : EdgeBundle) : List (UInt64 × UInt64) :=
  (bundle.sources.zip bundle.targets).map fun (source, target) =>
    (source.toUInt64, target.toUInt64)

/-- The first edge with an end outside its vertex set, numbered from `index`. -/
def firstOutside (sourceSet targetSet : VertexSet) :
    Nat → List (Int64 × Int64) → Option (Nat × Int64 × Int64)
  | _, [] => none
  | index, (source, target) :: rest =>
      if sourceSet.contains source && targetSet.contains target then
        firstOutside sourceSet targetSet (index + 1) rest
      else some (index, source, target)

def checkBounds (bundle : EdgeBundle) (sourceSet targetSet : VertexSet) :
    Except EngineError Unit :=
  match firstOutside sourceSet targetSet 0 (bundle.sources.zip bundle.targets) with
  | some (edge, source, target) =>
      .error (.corruptEntity
        (.outsideSets edge source target sourceSet.size targetSet.size))
  | none => .ok ()

end EdgeBundle

structure Attribute (α : Type) where
  values : List α
  defined : List Bool
deriving DecidableEq

namespace Attribute

variable {α : Type}

def size (column : Attribute α) : Nat := column.values.length

def isEmpty (column : Attribute α) : Bool := column.values.isEmpty

/-- There must be one flag for each value. -/
def fault? (column : Attribute α) : Option Corruption :=
  if column.values.length ≠ column.defined.length then
    some (.flagsDiffer column.values.length column.defined.length)
  else none

def make (values : List α) (defined : List Bool) : Except EngineError (Attribute α) :=
  let column : Attribute α := ⟨values, defined⟩
  match column.fault? with
  | some cause => .error (.corruptEntity cause)
  | none => .ok column

/-- The value of a defined slot. -/
def get? (column : Attribute α) (index : Nat) : Option α :=
  if column.defined[index]? = some true then column.values[index]? else none

/-- The defined slots in order, each with its value. -/
def definedSlots (column : Attribute α) : List (Nat × α) :=
  ((column.values.zip column.defined).zipIdx).filterMap fun ((value, isDefined), index) =>
    if isDefined then some (index, value) else none

def definedCount (column : Attribute α) : Nat := column.defined.countP id

/-- A missing item leaves its slot undefined, with the given value in it. -/
def ofOptions (default : α) (items : List (Option α)) : Attribute α :=
  ⟨items.map (·.getD default), items.map Option.isSome⟩

end Attribute

inductive Entity where
  | vertexSet (vertices : VertexSet)
  | edgeBundle (bundle : EdgeBundle)
  | stringAttribute (column : Attribute String)
  | doubleAttribute (column : Attribute Double)
  | longAttribute (column : Attribute Int64)
  | doubleTuple2Attribute (column : Attribute (Double × Double))
  | doubleVectorAttribute (column : Attribute (List Double))
  | scalar (value : Json)
deriving DecidableEq

namespace Entity

def kind : Entity → Kind
  | .vertexSet _ => .vertexSet
  | .edgeBundle _ => .edgeBundle
  | .stringAttribute _ => .stringAttribute
  | .doubleAttribute _ => .doubleAttribute
  | .longAttribute _ => .longAttribute
  | .doubleTuple2Attribute _ => .doubleTuple2Attribute
  | .doubleVectorAttribute _ => .doubleVectorAttribute
  | .scalar _ => .scalar

def isScalar (entity : Entity) : Bool := entity.kind = .scalar

/-- Vertices, edges or slots; a scalar counts as one. -/
def size : Entity → Nat
  | .vertexSet vertices => vertices.size
  | .edgeBundle bundle => bundle.size
  | .stringAttribute column => column.size
  | .doubleAttribute column => column.size
  | .longAttribute column => column.size
  | .doubleTuple2Attribute column => column.size
  | .doubleVectorAttribute column => column.size
  | .scalar _ => 1

def isEmpty (entity : Entity) : Bool := entity.size = 0

def fault? : Entity → Option Corruption
  | .vertexSet _ | .scalar _ => none
  | .edgeBundle bundle => bundle.fault?
  | .stringAttribute column => column.fault?
  | .doubleAttribute column => column.fault?
  | .longAttribute column => column.fault?
  | .doubleTuple2Attribute column => column.fault?
  | .doubleVectorAttribute column => column.fault?

/-- An entity whose sequences do not fit together is refused. -/
def validate (entity : Entity) : Except EngineError Unit :=
  match entity.fault? with
  | some cause => .error (.corruptEntity (.inKind entity.kind cause))
  | none => .ok ()

/-- The entity as one of the expected kind. -/
def expect (entity : Entity) (guid : Guid) (expected : Kind) : Except EngineError Unit :=
  if entity.kind = expected then .ok () else .error (.wrongKind guid expected entity.kind)

def asVertexSet (guid : Guid) : Entity → Except EngineError VertexSet
  | .vertexSet vertices => .ok vertices
  | other => .error (.wrongKind guid .vertexSet other.kind)

def asEdgeBundle (guid : Guid) : Entity → Except EngineError EdgeBundle
  | .edgeBundle bundle => .ok bundle
  | other => .error (.wrongKind guid .edgeBundle other.kind)

def asStringAttribute (guid : Guid) : Entity → Except EngineError (Attribute String)
  | .stringAttribute column => .ok column
  | other => .error (.wrongKind guid .stringAttribute other.kind)

def asScalar (guid : Guid) : Entity → Except EngineError Json
  | .scalar value => .ok value
  | other => .error (.wrongKind guid .scalar other.kind)

end Entity
end GraphEngine
