/-!
The version that the programs show.
-/
namespace GraphEngine

def version : String := "0.4.0"

end GraphEngine
