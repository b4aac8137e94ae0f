import GraphEngine.Program

/-!
Strings as vectors with a single one.

A defined value becomes a vector with a place for each category: one at the last place of its
category, zero elsewhere. An undefined slot stays undefined and holds the empty vector.
-/
namespace GraphEngine.Operation.OneHotEncoder

def vector (value : String) : List String → List Double
  | [] => []
  | category :: rest =>
      (if category = value ∧ ¬ value ∈ rest then Double.one else Double.zero)
        :: vector value rest

def vectors (categories : List String) : List String → List Bool → List (List Double)
  | [], _ => []
  | value :: values, true :: flags =>
      vector value categories :: vectors categories values flags
  | _ :: values, flags => [] :: vectors categories values flags.tail

def body : Program Unit := do
  let column ← Program.stringAttribute "catAttr"
  let categories ← Program.texts "categories"
  let encoded ← Program.ofExcept
    (Attribute.make (vectors categories column.values column.defined) column.defined)
  Program.output "oneHotVector" (.doubleVectorAttribute encoded)

end GraphEngine.Operation.OneHotEncoder
