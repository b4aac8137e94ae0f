import GraphEngine.Decimal.Layout
import GraphEngine.Operation.HelperOutput

/-!
Vertex embeddings computed by a helper program.

The helper is called with the number of vertices, the number of iterations, the number of
dimensions and the place of the staged edges. What it prints becomes the outputs.
-/
namespace GraphEngine.Operation.Node2Vec

def defaultDimensions : Double := Double.ofInt 128

def argument (value : Double) : String := Decimal.Layout.plain.text value

/-- Only a helper that ends with status zero has its output looked at. -/
def conclude (command : String) : HelperOutcome → Program Unit
  | .notStarted fault => Program.fail (.helperFailure command "spawn failed" fault)
  | .finished 0 printed _ => Program.importOutputs command printed
  | .finished status _ complaint =>
      Program.fail
        (.helperFailure command s!"exit status: {status}" (Utf8.decodeLossy complaint))
  | .killed signal _ complaint =>
      Program.fail (.helperFailure command signal.message (Utf8.decodeLossy complaint))

def body (command : List String) : Program Unit := do
  let shown := " ".intercalate command
  let vertices ← Program.vertexSet "vs"
  let iterations ← Program.number "iterations"
  let dimensions := (← Program.optionalNumber "dimensions").getD defaultDimensions
  let staged ← Program.stage "es"
  if command = [] then Program.fail (.helperFailure shown "not configured" "")
  let arguments :=
    [toString vertices.size, argument iterations, argument dimensions, staged.place]
  conclude shown (← Program.runHelper (command ++ arguments))

end GraphEngine.Operation.Node2Vec
