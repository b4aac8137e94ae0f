import GraphEngine.Error
import GraphEngine.Json.Printer
import GraphEngine.Json.Reader
import GraphEngine.Text.Affix

/-!
Descriptions of computations: the class of an operation, its parameters, and the guids bound to
its input and output slots.

A descriptor travels as JSON. Slots are kept in the order of their names.
-/
namespace GraphEngine

/-- Guids bound to names of slots. -/
abbrev Slots := Std.ExtTreeMap String Guid

structure Descriptor where
  className : String
  data : Json
  inputs : Slots
  outputs : Slots

namespace Descriptor

/-- What every class name begins with; the name of the operation follows. -/
def classSpace : String := "com.lynxanalytics.biggraph.graph_operations."

def ofName (name : String) : Descriptor := ⟨classSpace ++ name, .object [], ∅, ∅⟩

def withInput (descriptor : Descriptor) (name : String) (guid : Guid) : Descriptor :=
  { descriptor with inputs := descriptor.inputs.insert name guid }

def withOutput (descriptor : Descriptor) (name : String) (guid : Guid) : Descriptor :=
  { descriptor with outputs := descriptor.outputs.insert name guid }

/-- Parameters live in an object; other data gives way to one. -/
def withParameter (descriptor : Descriptor) (name : String) (value : Json) : Descriptor :=
  let members := match descriptor.data with
    | .object members => members
    | _ => []
  { descriptor with data := .object (Json.insertMember name value members) }

/-- The name of the operation, when one follows the common beginning. -/
def operationName? (descriptor : Descriptor) : Option String :=
  (Affix.after? classSpace descriptor.className).filter (· ≠ "")

def parameter? (descriptor : Descriptor) (name : String) : Option Json :=
  descriptor.data.get? name

def slotsJson (slots : Slots) : Json :=
  .object (slots.toList.map fun (name, guid) => (name, .string guid.text))

def toJson (descriptor : Descriptor) : Json :=
  .object
    [("Operation",
        .object [("Class", .string descriptor.className), ("Data", descriptor.data)]),
      ("Inputs", slotsJson descriptor.inputs),
      ("Outputs", slotsJson descriptor.outputs)]

def json (descriptor : Descriptor) : String := descriptor.toJson.compact

open Json (Tree)

/-- A slot that is bound twice keeps the last guid. -/
def slots? (tree : Tree) : Option Slots := do
  let members ← tree.members?
  let bound ← members.mapM fun (name, tree) => tree.text?.map fun text => (name, Guid.mk text)
  return Std.ExtTreeMap.ofList bound

/-- The class and the data, which are two containers deep. -/
def operation? (tree : Tree) : Option (String × Json) := do
  let fields ← tree.fields? ["Class", "Data"]
  let className ← (← fields.lookup "Class").text?
  let data ← match fields.lookup "Data" with
    | some data => data.toJson? (Json.nestingLimit - 2)
    | none => some .null
  return (className, data)

def ofTree? (tree : Tree) : Option Descriptor := do
  let fields ← tree.fields? ["Operation", "Inputs", "Outputs"]
  let (className, data) ← operation? (← fields.lookup "Operation")
  let slots (name : String) : Option Slots :=
    match fields.lookup name with
    | some tree => slots? tree
    | none => some ∅
  return ⟨className, data, ← slots "Inputs", ← slots "Outputs"⟩

/-- The reason is worded by the reader; it is told apart by the text that is refused. -/
def refusal (text : String) : EngineError :=
  .invalidDescriptor ("the text does not describe an operation: " ++ text)

def parse (text : String) : Except EngineError Descriptor :=
  match (Json.Document.ofText text).tree?.bind ofTree? with
  | some descriptor => .ok descriptor
  | none => .error (refusal text)

end Descriptor
end GraphEngine
