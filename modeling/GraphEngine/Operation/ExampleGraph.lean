import GraphEngine.Program

/-!
A fixed graph of four people and four edges. Whatever part of it has an output is handed over.
-/
namespace GraphEngine.Operation.ExampleGraph

def decimal (coefficient : Nat) (exponent : Int) : Double :=
  (⟨coefficient, exponent⟩ : Decimal).toDouble false

def negative (coefficient : Nat) (exponent : Int) : Double :=
  (⟨coefficient, exponent⟩ : Decimal).toDouble true

/-- Values that are all defined. -/
def full {α : Type} (values : List α) : Attribute α := ⟨values, values.map fun _ => true⟩

def parts : List (String × Entity) :=
  [("vertices", .vertexSet ⟨[0, 1, 2, 3]⟩),
    ("edges", .edgeBundle ⟨[0, 1, 2, 2], [1, 0, 0, 1], [0, 1, 2, 3]⟩),
    ("name", .stringAttribute (full ["Adam", "Eve", "Bob", "Isolated Joe"])),
    ("age", .doubleAttribute
      (full [decimal 203 (-1), decimal 182 (-1), decimal 503 (-1), decimal 2 0])),
    ("gender", .stringAttribute (full ["Male", "Female", "Male", "Male"])),
    ("income", .doubleAttribute
      (.ofOptions .zero [some (decimal 1000 0), none, some (decimal 2000 0), none])),
    ("location", .doubleTuple2Attribute
      (full
        [(decimal 4071448 (-5), negative 7400598 (-5)),
          (decimal 475269674 (-7), decimal 190323968 (-7)),
          (decimal 1352083 (-6), decimal 103819836 (-6)),
          (negative 338674869 (-7), decimal 1512069902 (-7))])),
    ("comment", .stringAttribute
      (full ["Adam loves Eve", "Eve loves Adam", "Bob envies Adam", "Bob loves Eve"])),
    ("weight", .doubleAttribute (full [decimal 1 0, decimal 2 0, decimal 3 0, decimal 4 0])),
    ("greeting", .scalar (.string "Hello world! 😀 "))]

def handOver : List (String × Entity) → Program Unit
  | [] => return
  | (name, entity) :: rest => do
      if ← Program.hasOutput name then
        Program.output name entity
      handOver rest

def body : Program Unit := handOver parts

end GraphEngine.Operation.ExampleGraph
