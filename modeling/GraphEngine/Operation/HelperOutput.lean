import GraphEngine.Program

/-!
Outputs that a helper has printed: an object with an entity for each output.

Everything that is wrong with them is reported as a failure of the helper. Members are taken in
the order of their names, and those before a bad one have been handed over by then.
-/
namespace GraphEngine

namespace HelperOutput

open Json (Tree)

/-- A name that is given twice keeps the last entity. -/
def ofTree? (tree : Tree) : Option (Std.ExtTreeMap String Entity) := do
  let members ← tree.members?
  let entities ← members.mapM fun (name, tree) =>
    (Entity.ofTree? (Json.nestingLimit - 1) tree).map (name, ·)
  return Std.ExtTreeMap.ofList entities

def parse? (bytes : List UInt8) : Option (Std.ExtTreeMap String Entity) :=
  (Json.Document.ofBytes bytes).tree?.bind ofTree?

end HelperOutput

namespace Program

def invalidOutput (command reason : String) : EngineError :=
  .helperFailure command "invalid output" reason

def importOutput (command name : String) (entity : Entity) : Program Unit := do
  match entity.validate with
  | .error error => fail (invalidOutput command error.message)
  | .ok () =>
      match ← (output name entity).attempt with
      | .error error => fail (invalidOutput command error.message)
      | .ok () => return

def importEntities (command : String) : List (String × Entity) → Program Unit
  | [] => return
  | (name, entity) :: rest => do
      importOutput command name entity
      importEntities command rest

def importOutputs (command : String) (printed : List UInt8) : Program Unit :=
  match HelperOutput.parse? printed with
  | some entities => importEntities command entities.toList
  | none => fail (invalidOutput command "unparseable JSON: not an object of entities")

end Program
end GraphEngine
