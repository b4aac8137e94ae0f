import GraphEngine.Operation.ExampleGraph
import GraphEngine.Operation.Node2Vec
import GraphEngine.Operation.OneHotEncoder
import GraphEngine.Operation.OutDegree

/-!
The operations that can be asked for, by name. No name is given to two operations.
-/
namespace GraphEngine

structure Registry where
  operations : Std.ExtTreeMap String (Program Unit)

namespace Registry

def empty : Registry := ⟨∅⟩

def get? (registry : Registry) (name : String) : Option (Program Unit) :=
  registry.operations[name]?

def contains (registry : Registry) (name : String) : Bool := registry.operations.contains name

/-- In the order of the names. -/
def names (registry : Registry) : List String := registry.operations.keys

def size (registry : Registry) : Nat := registry.operations.size

def isEmpty (registry : Registry) : Bool := registry.operations.isEmpty

def register (registry : Registry) (name : String) (operation : Program Unit) :
    Except EngineError Registry :=
  if registry.contains name then .error (.duplicateOperation name)
  else .ok ⟨registry.operations.insert name operation⟩

def ofList (operations : List (String × Program Unit)) : Except EngineError Registry :=
  operations.foldlM (fun registry (name, operation) => registry.register name operation) empty

/-- The operations that every engine offers. -/
def builtIn (node2VecCommand : List String) : List (String × Program Unit) :=
  [("ExampleGraph", Operation.ExampleGraph.body),
    ("OneHotEncoder", Operation.OneHotEncoder.body),
    ("OutDegree", Operation.OutDegree.body),
    ("Node2Vec", Operation.Node2Vec.body node2VecCommand)]

def standard (node2VecCommand : List String) : Except EngineError Registry :=
  ofList (builtIn node2VecCommand)

end Registry
end GraphEngine
