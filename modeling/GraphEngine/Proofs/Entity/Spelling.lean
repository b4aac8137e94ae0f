import GraphEngine.Proofs.Entity.RoundTrip
import GraphEngine.Proofs.Payload.Spelling

/-!
All the bytes that are decoded as one entity.

An entity that is not a scalar has a fixed row of parts, and the bytes decoded as it are a header
and a spelling of these parts. So its own bytes are the only shortest ones, and two byte strings
of one entity differ only where one of them spells a word with groups that add nothing.
-/
namespace GraphEngine

namespace Kind

theorem eq_tag_of_ofTag? {kind : Kind} {tag : UInt8} (h : ofTag? tag = some kind) :
    tag = kind.tag := by
  have found := List.find?_some h
  exact (of_decide_eq_true found).symm

end Kind

namespace Payload

def longsParts : List Int64 → List Part := listParts longParts

def edgeBundleParts (bundle : EdgeBundle) : List Part :=
  pairParts longsParts (pairParts longsParts longsParts)
    (bundle.sources, bundle.targets, bundle.externalIds)

def columnParts {α : Type} (item : α → List Part) (column : Attribute α) : List Part :=
  pairParts (listParts item) (listParts flagParts) (column.values, column.defined)

theorem longs_spelledBy : longs.SpelledBy longsParts := list_spelledBy long_spelledBy

theorem vertexSet_spelledBy :
    vertexSet.SpelledBy fun vertices => longsParts vertices.externalIds :=
  view_spelledBy longs_spelledBy (fun _ => rfl) fun _ => rfl

theorem edgeBundle_spelledBy : edgeBundle.SpelledBy edgeBundleParts :=
  view_spelledBy (pair_spelledBy longs_spelledBy (pair_spelledBy longs_spelledBy longs_spelledBy))
    (fun _ => rfl) fun _ => rfl

theorem column_spelledBy {α : Type} {item : Layout α} {parts : α → List Part}
    (spelledBy : item.SpelledBy parts) : (column item).SpelledBy (columnParts parts) :=
  view_spelledBy (pair_spelledBy (list_spelledBy spelledBy) (list_spelledBy flag_spelledBy))
    (fun _ => rfl) fun _ => rfl

/-- One part, as two byte strings spell it. -/
structure Row where
  part : Part
  first : List UInt8
  second : List UInt8

/-- Both spell the part, and where they differ one of them is longer than need be. -/
structure Row.DiffersByPadding (row : Row) : Prop where
  first : row.part.Spelled row.first
  second : row.part.Spelled row.second
  padded : row.first ≠ row.second → ∃ n, row.part = .word n ∧
    ((writeWord n).length < row.first.length ∨ (writeWord n).length < row.second.length)

theorem differsByPadding {row : Row} (first : row.part.Spelled row.first)
    (second : row.part.Spelled row.second) : row.DiffersByPadding := by
  refine ⟨first, second, fun differ => ?_⟩
  obtain ⟨part, one, other⟩ := row
  have shortestOne := Part.shortest_le first
  have shortestOther := Part.shortest_le second
  cases part with
  | word n =>
      refine ⟨n, rfl, ?_⟩
      -- Were both as short as can be, both would be the spelling that is written.
      by_contra bothShort
      rw [not_or, Nat.not_lt, Nat.not_lt] at bothShort
      have writtenOne := shortestOne.2 (Nat.le_antisymm shortestOne.1 bothShort.1)
      have writtenOther := shortestOther.2 (Nat.le_antisymm shortestOther.1 bothShort.2)
      exact differ (writtenOne.trans writtenOther.symm)
  | bytes own => exact absurd (Eq.trans first (Eq.symm second)) differ

theorem exists_rows {parts : List Part} {first second : List UInt8} (h : Spells parts first)
    (h' : Spells parts second) :
    ∃ rows : List Row, rows.map Row.part = parts ∧ first = rows.flatMap Row.first ∧
      second = rows.flatMap Row.second ∧ ∀ row ∈ rows, row.DiffersByPadding := by
  induction h generalizing second with
  | nil => exact ⟨[], rfl, rfl, Spells.nil_iff.mp h', by simp⟩
  | @cons part parts spelling rest spelled _ ih =>
      obtain ⟨other, left, spelled', spells', rfl⟩ := Spells.cons_iff.mp h'
      obtain ⟨rows, rfl, rfl, rfl, padded⟩ := ih spells'
      exact ⟨⟨part, spelling, other⟩ :: rows, rfl, rfl, rfl,
        List.forall_mem_cons.mpr ⟨differsByPadding spelled spelled', padded⟩⟩

end Payload

namespace Entity

open Payload (Layout Part Row Spells)

variable {entity : Entity} {bytes : List UInt8} {kind : Kind}

/-- The parts of the payload. That of a scalar is its text. -/
def parts : Entity → List Part
  | .vertexSet vertices => Payload.longsParts vertices.externalIds
  | .edgeBundle bundle => Payload.edgeBundleParts bundle
  | .stringAttribute column => Payload.columnParts Payload.textParts column
  | .doubleAttribute column => Payload.columnParts Payload.doubleParts column
  | .longAttribute column => Payload.columnParts Payload.longParts column
  | .doubleTuple2Attribute column =>
      Payload.columnParts (Payload.pairParts Payload.doubleParts Payload.doubleParts) column
  | .doubleVectorAttribute column =>
      Payload.columnParts (Payload.listParts Payload.doubleParts) column
  | .scalar value => Payload.textParts value.compact

theorem encode_eq_shortest (entity : Entity) :
    entity.encode = header entity.kind ++ entity.parts.flatMap Part.shortest := by
  refine congrArg (header entity.kind ++ ·) ?_
  cases entity with
  | vertexSet vertices => exact Payload.vertexSet_spelledBy.write_eq vertices
  | edgeBundle bundle => exact Payload.edgeBundle_spelledBy.write_eq bundle
  | stringAttribute column =>
      exact (Payload.column_spelledBy Payload.text_spelledBy).write_eq column
  | doubleAttribute column =>
      exact (Payload.column_spelledBy Payload.double_spelledBy).write_eq column
  | longAttribute column =>
      exact (Payload.column_spelledBy Payload.long_spelledBy).write_eq column
  | doubleTuple2Attribute column =>
      exact (Payload.column_spelledBy
        (Payload.pair_spelledBy Payload.double_spelledBy Payload.double_spelledBy)).write_eq column
  | doubleVectorAttribute column =>
      exact (Payload.column_spelledBy
        (Payload.list_spelledBy Payload.double_spelledBy)).write_eq column
  | scalar value => exact Payload.text_spelledBy.write_eq value.compact

theorem eq_header_of_headerKind {size : Nat} (h : headerKind size bytes = .ok kind) :
    bytes = header kind ++ bytes.drop Format.headerSize := by
  unfold headerKind at h
  split at h
  · next a b c d version tag rest =>
      split at h
      · cases h
      · next magic =>
          split at h
          · cases h
          · next sameVersion =>
              split at h
              · next found =>
                  cases h
                  have letters := Decidable.not_not.mp magic
                  rw [Kind.eq_tag_of_ofTag? found, Decidable.not_not.mp sameVersion, header,
                    ← letters]
                  rfl
              · cases h
  · cases h

theorem decode_eq_ok (h : decode bytes = .ok entity) :
    ∃ kind payload, bytes = header kind ++ payload ∧ bytes.length ≤ Format.sizeLimit ∧
      readPayload kind payload = .ok entity ∧ entity.validate = .ok () := by
  obtain ⟨_, small, h⟩ := Result.bind_eq_ok.mp h
  obtain ⟨kind, peeked, h⟩ := Result.bind_eq_ok.mp h
  obtain ⟨read, reads, h⟩ := Result.bind_eq_ok.mp h
  obtain ⟨_, valid, returned⟩ := Result.bind_eq_ok.mp h
  cases returned
  refine ⟨kind, bytes.drop Format.headerSize, eq_header_of_headerKind peeked, ?_, reads, valid⟩
  unfold checkSize at small
  split at small
  · assumption
  · cases small

theorem spells_of_readWhole {α : Type} {layout : Layout α} {parts : α → List Part}
    (spelledBy : layout.SpelledBy parts) {make : α → Entity}
    (h : (readWhole layout bytes).map make = .ok entity) :
    ∃ value, entity = make value ∧ Spells (parts value) bytes := by
  unfold readWhole at h
  split at h
  · cases h
  · next value read =>
      cases h
      obtain ⟨taken, spells, rfl⟩ := spelledBy.read_eq_ok.mp read
      rw [List.append_nil]
      exact ⟨value, rfl, spells⟩
  · cases h

theorem spells_of_readPayload (h : readPayload kind bytes = .ok entity)
    (notScalar : entity.isScalar = false) : kind = entity.kind ∧ Spells entity.parts bytes := by
  cases kind with
  | vertexSet =>
      obtain ⟨value, rfl, spells⟩ := spells_of_readWhole Payload.vertexSet_spelledBy h
      exact ⟨rfl, spells⟩
  | edgeBundle =>
      obtain ⟨value, rfl, spells⟩ := spells_of_readWhole Payload.edgeBundle_spelledBy h
      exact ⟨rfl, spells⟩
  | stringAttribute =>
      obtain ⟨value, rfl, spells⟩ :=
        spells_of_readWhole (Payload.column_spelledBy Payload.text_spelledBy) h
      exact ⟨rfl, spells⟩
  | doubleAttribute =>
      obtain ⟨value, rfl, spells⟩ :=
        spells_of_readWhole (Payload.column_spelledBy Payload.double_spelledBy) h
      exact ⟨rfl, spells⟩
  | longAttribute =>
      obtain ⟨value, rfl, spells⟩ :=
        spells_of_readWhole (Payload.column_spelledBy Payload.long_spelledBy) h
      exact ⟨rfl, spells⟩
  | doubleTuple2Attribute =>
      obtain ⟨value, rfl, spells⟩ :=
        spells_of_readWhole (Payload.column_spelledBy
          (Payload.pair_spelledBy Payload.double_spelledBy Payload.double_spelledBy)) h
      exact ⟨rfl, spells⟩
  | doubleVectorAttribute =>
      obtain ⟨value, rfl, spells⟩ :=
        spells_of_readWhole (Payload.column_spelledBy
          (Payload.list_spelledBy Payload.double_spelledBy)) h
      exact ⟨rfl, spells⟩
  | scalar =>
      obtain ⟨text, _, parsed⟩ := Result.bind_eq_ok.mp h
      split at parsed
      · cases parsed
        cases notScalar
      · cases parsed

theorem spells_of_decode (decoded : decode bytes = .ok entity)
    (notScalar : entity.isScalar = false) :
    ∃ payload, bytes = header entity.kind ++ payload ∧ Spells entity.parts payload := by
  obtain ⟨kind, payload, rfl, _, read, _⟩ := decode_eq_ok decoded
  obtain ⟨rfl, spells⟩ := spells_of_readPayload read notScalar
  exact ⟨payload, rfl, spells⟩

/-- Two byte strings of one entity, part by part. -/
structure DifferByPadding (entity : Entity) (bytes other : List UInt8) : Prop where
  rows : ∃ rows : List Row, rows.map Row.part = entity.parts ∧
    bytes = header entity.kind ++ rows.flatMap Row.first ∧
      other = header entity.kind ++ rows.flatMap Row.second ∧
        ∀ row ∈ rows, row.DiffersByPadding

/-- Of all bytes that are decoded as an entity its own are the shortest, and no others are. -/
theorem encode_shortest (decoded : decode bytes = .ok entity)
    (notScalar : entity.isScalar = false) :
    entity.encode.length ≤ bytes.length ∧
    (entity.encode.length = bytes.length ↔ bytes = entity.encode) ∧
    decode entity.encode = .ok entity ∧
    ∀ other, decode other = .ok entity → entity.DifferByPadding bytes other := by
  obtain ⟨payload, whole, spells⟩ := spells_of_decode decoded notScalar
  obtain ⟨shortest, unique⟩ := spells.shortest_le
  obtain ⟨_, _, _, small, _, valid⟩ := decode_eq_ok decoded
  have length : bytes.length = (header entity.kind).length + payload.length := by
    rw [whole, List.length_append]
  have own : entity.encode.length
      = (header entity.kind).length + (entity.parts.flatMap Part.shortest).length := by
    rw [encode_eq_shortest, List.length_append]
  have atMost : entity.encode.length ≤ bytes.length := by omega
  refine ⟨atMost, ⟨fun same => ?_, fun same => by rw [same]⟩, ?_, fun other decoded' => ?_⟩
  · rw [encode_eq_shortest, whole, unique (by omega)]
  · rw [decode_encode_eq_validate (by omega) (restorable_of_not_scalar notScalar)
      (numbersReadBack_of_not_scalar notScalar), valid]
    rfl
  · obtain ⟨payload', whole', spells'⟩ := spells_of_decode decoded' notScalar
    obtain ⟨rows, same, rfl, rfl, padded⟩ := Payload.exists_rows spells spells'
    exact ⟨rows, same, whole, whole', padded⟩

/-- The vertices 3 and 5: their number with a group too many, and two with the second. -/
def paddedVertices : List UInt8 :=
  [0x53, 0x50, 0x48, 0x58, 1, 1, 0x82, 0x00, 0x06, 0x8A, 0x80, 0x00]

theorem encode_shortest_paddedVertices :
    decode paddedVertices = .ok (.vertexSet ⟨[3, 5]⟩) ∧
      (Entity.vertexSet ⟨[3, 5]⟩).isScalar = false ∧
      (Entity.vertexSet ⟨[3, 5]⟩).encode.length ≤ paddedVertices.length ∧
      ((Entity.vertexSet ⟨[3, 5]⟩).encode.length = paddedVertices.length ↔
        paddedVertices = (Entity.vertexSet ⟨[3, 5]⟩).encode) ∧
      (Entity.vertexSet ⟨[3, 5]⟩).DifferByPadding paddedVertices
        (Entity.vertexSet ⟨[3, 5]⟩).encode := by
  have decoded : decode paddedVertices = .ok (.vertexSet ⟨[3, 5]⟩) := by decide +kernel
  obtain ⟨atMost, unique, again, padded⟩ := encode_shortest decoded rfl
  exact ⟨decoded, rfl, atMost, unique, padded _ again⟩

end Entity
end GraphEngine
