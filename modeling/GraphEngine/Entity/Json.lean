import GraphEngine.Entity.Basic
import GraphEngine.Json.Printer
import GraphEngine.Json.Reader

/-!
Entities as JSON: an object with the name of the kind and the fields of that kind.

Reading takes the fields in any order and also an array of the kind and the fields in order; it
never turns a value of one type into another, apart from whole numbers given for doubles.
-/
namespace GraphEngine.Entity

def longs (values : List Int64) : Json := .array (values.map fun n => .ofInt n.toInt)

def doubles (values : List Double) : Json := .array (values.map .ofDouble)

def flags (values : List Bool) : Json := .array (values.map .boolean)

def columnFields {α : Type} (item : α → Json) (column : Attribute α) :
    List (String × Json) :=
  [("values", .array (column.values.map item)), ("defined", flags column.defined)]

def pairItem (value : Double × Double) : Json := doubles [value.1, value.2]

def fields : Entity → List (String × Json)
  | .vertexSet vertices => [("mapping_to_unordered", longs vertices.externalIds)]
  | .edgeBundle bundle =>
      [("src", longs bundle.sources), ("dst", longs bundle.targets),
        ("edge_mapping", longs bundle.externalIds)]
  | .stringAttribute column => columnFields .string column
  | .doubleAttribute column => columnFields .ofDouble column
  | .longAttribute column => columnFields (fun n => .ofInt n.toInt) column
  | .doubleTuple2Attribute column => columnFields pairItem column
  | .doubleVectorAttribute column => columnFields doubles column
  | .scalar value => [("value", value)]

def toJson (entity : Entity) : Json :=
  .object (("kind", .string entity.kind.name) :: entity.fields)

def json (entity : Entity) : String := entity.toJson.compact

def fieldNames : Kind → List String
  | .vertexSet => ["mapping_to_unordered"]
  | .edgeBundle => ["src", "dst", "edge_mapping"]
  | .stringAttribute | .doubleAttribute | .longAttribute | .doubleTuple2Attribute
  | .doubleVectorAttribute => ["values", "defined"]
  | .scalar => ["value"]

def long? : Json → Option Int64
  | .number value => value.toInt64?
  | _ => none

def double? : Json → Option Double
  | .number value => some value.toDouble
  | _ => none

def text? : Json → Option String
  | .string text => some text
  | _ => none

def flag? : Json → Option Bool
  | .boolean value => some value
  | _ => none

def list? {α : Type} (item : Json → Option α) : Json → Option (List α)
  | .array items => items.mapM item
  | _ => none

def pair? : Json → Option (Double × Double)
  | .array [first, second] => do return (← double? first, ← double? second)
  | _ => none

def column? {α : Type} (item : Json → Option α) (values defined : Json) :
    Option (Attribute α) := do
  return ⟨← list? item values, ← list? flag? defined⟩

/-- The entity of a kind from its fields in their order. -/
def ofFields? : Kind → List Json → Option Entity
  | .vertexSet, [ids] => do return .vertexSet ⟨← list? long? ids⟩
  | .edgeBundle, [sources, targets, ids] => do
      return .edgeBundle ⟨← list? long? sources, ← list? long? targets, ← list? long? ids⟩
  | .stringAttribute, [values, defined] =>
      (column? text? values defined).map .stringAttribute
  | .doubleAttribute, [values, defined] =>
      (column? double? values defined).map .doubleAttribute
  | .longAttribute, [values, defined] =>
      (column? long? values defined).map .longAttribute
  | .doubleTuple2Attribute, [values, defined] =>
      (column? pair? values defined).map .doubleTuple2Attribute
  | .doubleVectorAttribute, [values, defined] =>
      (column? (list? double?) values defined).map .doubleVectorAttribute
  | .scalar, [value] => some (.scalar value)
  | _, _ => none

/-- The only member of a name. -/
def single? (members : List (String × Json)) (name : String) : Option Json :=
  match members.filter (·.1 = name) with
  | [(_, value)] => some value
  | _ => none

def ofMembers? (members : List (String × Json)) : Option Entity := do
  let kind ← Kind.ofName? (← text? (← single? members "kind"))
  let fields ← (fieldNames kind).mapM (single? members)
  ofFields? kind fields

open Json in
/-- All members are read as values, also those that no field is named after. -/
def ofTree? (room : Nat) : Tree → Option Entity
  | .array items true =>
      match room, Tree.itemsToJson? (room - 1) items with
      | _ + 1, some (.string name :: fields) => do ofFields? (← Kind.ofName? name) fields
      | _, _ => none
  | .object members true => do
      guard (0 < room)
      let members ← (Tree.object members true).members?
      let members ← members.mapM fun (name, tree) => (tree.toJson? (room - 1)).map (name, ·)
      ofMembers? members
  | _ => none

def parse? (text : String) : Option Entity := do
  ofTree? Json.nestingLimit (← (Json.Document.ofText text).tree?)

end GraphEngine.Entity
