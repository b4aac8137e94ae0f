import GraphEngine.Program

/-!
The number of edges that leave each vertex.

Only the source set is an input, so only the sources of the edges are checked against it.
-/
namespace GraphEngine.Operation.OutDegree

/-- The sum of as many ones, added one after another. -/
def sumOfOnes (count : Nat) : Double := Nat.repeat (· + Double.one) count Double.zero

def degrees (vertices : VertexSet) (bundle : EdgeBundle) : List Double :=
  let sources := (bundle.sources.zip bundle.targets).map Prod.fst
  (List.range vertices.size).map fun (vertex : Nat) =>
    sumOfOnes (sources.countP fun source => source.toInt = (vertex : Int))

def body : Program Unit := do
  let vertices ← Program.vertexSet "src"
  let bundle ← Program.edgeBundle "es"
  match bundle.sources.find? (! vertices.contains ·) with
  | some source => Program.fail (.corruptEntity (.outsideSources source vertices.size))
  | none =>
      let column := Attribute.make (degrees vertices bundle)
        (List.replicate vertices.size true)
      Program.output "outDegree" (.doubleAttribute (← Program.ofExcept column))

end GraphEngine.Operation.OutDegree
