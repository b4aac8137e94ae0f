import GraphEngine.Entity.Json

/-!
Entities as bytes: a header, and the fields of the kind one after another. The payload of a
scalar is its JSON text.

Decoding refuses whatever is not exactly one entity: bytes that are too many, a header of another
format, a payload that ends early or is followed by more, and entities that are not valid.
-/
namespace GraphEngine

namespace Payload

def longs : Layout (List Int64) := list long

def vertexSet : Layout VertexSet := longs.view VertexSet.externalIds VertexSet.mk

def edgeBundle : Layout EdgeBundle :=
  (pair longs (pair longs longs)).view
    (fun bundle => (bundle.sources, bundle.targets, bundle.externalIds))
    (fun (sources, targets, ids) => ⟨sources, targets, ids⟩)

def column {α : Type} (item : Layout α) : Layout (Attribute α) :=
  (pair (list item) (list flag)).view
    (fun column => (column.values, column.defined))
    (fun (values, defined) => ⟨values, defined⟩)

end Payload

namespace Entity

open Payload (Layout)

def header (kind : Kind) : List UInt8 := Format.magic ++ [Format.version, kind.tag]

def payload : Entity → List UInt8
  | .vertexSet vertices => Payload.vertexSet.write vertices
  | .edgeBundle bundle => Payload.edgeBundle.write bundle
  | .stringAttribute column => (Payload.column Payload.text).write column
  | .doubleAttribute column => (Payload.column Payload.double).write column
  | .longAttribute column => (Payload.column Payload.long).write column
  | .doubleTuple2Attribute column =>
      (Payload.column (Payload.pair Payload.double Payload.double)).write column
  | .doubleVectorAttribute column =>
      (Payload.column (Payload.list Payload.double)).write column
  | .scalar value => Payload.text.write value.compact

def encode (entity : Entity) : List UInt8 := header entity.kind ++ entity.payload

/-- The kind that the header names, if it is a header of this format. -/
def headerKind (size : Nat) : List UInt8 → Except EngineError Kind
  | a :: b :: c :: d :: version :: tag :: _ =>
      if [a, b, c, d] ≠ Format.magic then .error (.corruptEntity .badMagic)
      else if version ≠ Format.version then .error (.corruptEntity (.badVersion version))
      else match Kind.ofTag? tag with
        | some kind => .ok kind
        | none => .error (.corruptEntity (.unknownTag tag))
  | _ => .error (.corruptEntity (.tooShort size))

def peekKind (bytes : List UInt8) : Except EngineError Kind := headerKind bytes.length bytes

def checkSize (size : Nat) : Except EngineError Unit :=
  if size ≤ Format.sizeLimit then .ok () else .error (.corruptEntity (.tooLarge size))

/-- A value and nothing after it. -/
def readWhole {α : Type} (layout : Layout α) (bytes : List UInt8) : Except EngineError α :=
  match layout.read bytes with
  | .error fault => .error (.corruptEntity (.badPayload fault))
  | .ok (value, []) => .ok value
  | .ok (_, rest) => .error (.corruptEntity (.trailingBytes rest.length))

def readPayload (kind : Kind) (bytes : List UInt8) : Except EngineError Entity :=
  match kind with
  | .vertexSet => (readWhole Payload.vertexSet bytes).map .vertexSet
  | .edgeBundle => (readWhole Payload.edgeBundle bytes).map .edgeBundle
  | .stringAttribute =>
      (readWhole (Payload.column Payload.text) bytes).map .stringAttribute
  | .doubleAttribute =>
      (readWhole (Payload.column Payload.double) bytes).map .doubleAttribute
  | .longAttribute => (readWhole (Payload.column Payload.long) bytes).map .longAttribute
  | .doubleTuple2Attribute =>
      (readWhole (Payload.column (Payload.pair Payload.double Payload.double)) bytes).map
        .doubleTuple2Attribute
  | .doubleVectorAttribute =>
      (readWhole (Payload.column (Payload.list Payload.double)) bytes).map
        .doubleVectorAttribute
  | .scalar => do
      let text ← readWhole Payload.text bytes
      match Json.parse? text with
      | some value => .ok (.scalar value)
      | none => .error (.corruptEntity .scalarNotJson)

def decode (bytes : List UInt8) : Except EngineError Entity := do
  checkSize bytes.length
  let kind ← peekKind bytes
  let entity ← readPayload kind (bytes.drop Format.headerSize)
  entity.validate
  return entity

end Entity
end GraphEngine
