/-!
The eight kinds of entities, their names and the tags under which they are stored.
-/
namespace GraphEngine

inductive Kind where
  | vertexSet
  | edgeBundle
  | stringAttribute
  | doubleAttribute
  | longAttribute
  | doubleTuple2Attribute
  | doubleVectorAttribute
  | scalar
deriving DecidableEq

namespace Kind

def all : List Kind :=
  [.vertexSet, .edgeBundle, .stringAttribute, .doubleAttribute, .longAttribute,
    .doubleTuple2Attribute, .doubleVectorAttribute, .scalar]

def name : Kind → String
  | .vertexSet => "VertexSet"
  | .edgeBundle => "EdgeBundle"
  | .stringAttribute => "StringAttribute"
  | .doubleAttribute => "DoubleAttribute"
  | .longAttribute => "LongAttribute"
  | .doubleTuple2Attribute => "DoubleTuple2Attribute"
  | .doubleVectorAttribute => "DoubleVectorAttribute"
  | .scalar => "Scalar"

def ofName? (name : String) : Option Kind := all.find? (·.name = name)

def tag : Kind → UInt8
  | .vertexSet => 1
  | .edgeBundle => 2
  | .stringAttribute => 3
  | .doubleAttribute => 4
  | .longAttribute => 5
  | .doubleTuple2Attribute => 6
  | .doubleVectorAttribute => 7
  | .scalar => 8

def ofTag? (tag : UInt8) : Option Kind := all.find? (·.tag = tag)

theorem ofTag?_tag (kind : Kind) : ofTag? kind.tag = some kind := by
  cases kind <;> rfl

theorem ofName?_name (kind : Kind) : ofName? kind.name = some kind := by
  cases kind <;> decide

end Kind
end GraphEngine
