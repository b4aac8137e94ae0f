import GraphEngine.Entity.Codec
import GraphEngine.Proofs.Json.ReadBack
import GraphEngine.Proofs.Payload.ReadBack

/-!
Entities come back from their bytes.

The size limit on encodings keeps every count and every size within a word. Beyond it a scalar
must be a value that its own text gives back.
-/
namespace GraphEngine

namespace Payload

theorem longs_faithful : longs.Faithful := list_faithful long_faithful

theorem vertexSet_faithful : vertexSet.Faithful := view_faithful longs_faithful fun _ => rfl

theorem edgeBundle_faithful : edgeBundle.Faithful :=
  view_faithful (pair_faithful longs_faithful (pair_faithful longs_faithful longs_faithful))
    fun _ => rfl

theorem column_faithful {α : Type} {item : Layout α} (faithful : item.Faithful) :
    (column item).Faithful :=
  view_faithful (pair_faithful (list_faithful faithful) (list_faithful flag_faithful)) fun _ => rfl

end Payload

namespace Entity

/-- A value in memory names no member twice; its text is read to a limited depth. -/
def Restorable : Entity → Prop
  | .scalar value => value.WellFormed ∧ value.depth ≤ Json.nestingLimit
  | _ => True

theorem restorable_of_not_scalar {entity : Entity} (h : entity.isScalar = false) :
    entity.Restorable := by
  cases entity with
  | scalar value => cases h
  | _ => trivial

/-- The doubles that are written as text are read back from it; columns hold theirs as bits. -/
def NumbersReadBack : Entity → Prop
  | .scalar value => value.NumbersReadBack
  | _ => True

theorem numbersReadBack_of_not_scalar {entity : Entity} (h : entity.isScalar = false) :
    entity.NumbersReadBack := by
  cases entity with
  | scalar value => cases h
  | _ => trivial

theorem headerKind_encode (entity : Entity) (size : Nat) :
    headerKind size entity.encode = .ok entity.kind := by
  simp [encode, header, headerKind, Format.magic, Kind.ofTag?_tag]

theorem length_encode (entity : Entity) :
    entity.encode.length = Format.headerSize + entity.payload.length := by
  have size : (header entity.kind).length = Format.headerSize := rfl
  rw [encode, List.length_append, size]

theorem drop_encode (entity : Entity) : entity.encode.drop Format.headerSize = entity.payload := rfl

theorem readWhole_write {α : Type} {layout : Payload.Layout α} (faithful : layout.Faithful)
    {value : α} (fits : (layout.write value).length < Payload.wordLimit) :
    readWhole layout (layout.write value) = .ok value := by
  have read := faithful.read_write value [] fits
  rw [List.append_nil] at read
  rw [readWhole, read]

theorem readPayload_payload {entity : Entity} (fits : entity.payload.length < Payload.wordLimit)
    (restorable : entity.Restorable) (numbers : entity.NumbersReadBack) :
    readPayload entity.kind entity.payload = .ok entity := by
  cases entity with
  | vertexSet vertices =>
      exact congrArg (·.map vertexSet) (readWhole_write Payload.vertexSet_faithful fits)
  | edgeBundle bundle =>
      exact congrArg (·.map edgeBundle) (readWhole_write Payload.edgeBundle_faithful fits)
  | stringAttribute column =>
      exact congrArg (·.map stringAttribute)
        (readWhole_write (Payload.column_faithful Payload.text_faithful) fits)
  | doubleAttribute column =>
      exact congrArg (·.map doubleAttribute)
        (readWhole_write (Payload.column_faithful Payload.double_faithful) fits)
  | longAttribute column =>
      exact congrArg (·.map longAttribute)
        (readWhole_write (Payload.column_faithful Payload.long_faithful) fits)
  | doubleTuple2Attribute column =>
      exact congrArg (·.map doubleTuple2Attribute)
        (readWhole_write (Payload.column_faithful
          (Payload.pair_faithful Payload.double_faithful Payload.double_faithful)) fits)
  | doubleVectorAttribute column =>
      exact congrArg (·.map doubleVectorAttribute)
        (readWhole_write (Payload.column_faithful
          (Payload.list_faithful Payload.double_faithful)) fits)
  | scalar value =>
      obtain ⟨wellFormed, shallow⟩ := restorable
      have text := readWhole_write Payload.text_faithful fits
      have parsed := Json.parse?_compact wellFormed numbers
      rw [if_pos shallow] at parsed
      simp only [kind, payload, readPayload] at text ⊢
      rw [text]
      simp only [bind, Except.bind, parsed]

/-- Whatever is wrong with an entity is found again in its bytes, and nothing else is. -/
theorem decode_encode_eq_validate {entity : Entity}
    (fits : entity.encode.length ≤ Format.sizeLimit) (restorable : entity.Restorable)
    (numbers : entity.NumbersReadBack) :
    decode entity.encode = entity.validate.map fun _ => entity := by
  have small : entity.payload.length < Payload.wordLimit := by
    rw [length_encode] at fits
    simp only [Format.sizeLimit, Payload.wordLimit] at fits ⊢
    omega
  simp only [decode, checkSize, fits, if_true, peekKind, headerKind_encode, drop_encode, bind,
    Except.bind, readPayload_payload small restorable numbers]
  cases entity.validate <;> rfl

/-- What is written of a value that nests too deep is not read as JSON again. -/
theorem decode_encode_of_deep {value : Json} (wellFormed : value.WellFormed)
    (numbers : value.NumbersReadBack) (deep : Json.nestingLimit < value.depth)
    (fits : (scalar value).encode.length ≤ Format.sizeLimit) :
    decode (scalar value).encode = .error (.corruptEntity .scalarNotJson) := by
  have small : (scalar value).payload.length < Payload.wordLimit := by
    rw [length_encode] at fits
    simp only [Format.sizeLimit, Payload.wordLimit] at fits ⊢
    omega
  have text := readWhole_write Payload.text_faithful small
  have parsed := Json.parse?_compact wellFormed numbers
  rw [if_neg (Nat.not_le.mpr deep)] at parsed
  simp only [decode, checkSize, fits, if_true, peekKind, headerKind_encode, drop_encode, bind,
    Except.bind, kind, readPayload]
  simp only [payload] at text ⊢
  simp only [text, parsed]

theorem validate_error {entity : Entity} {error : EngineError}
    (h : entity.validate = .error error) :
    ∃ cause, entity.fault? = some cause ∧ error = .corruptEntity (.inKind entity.kind cause) := by
  unfold validate at h
  split at h
  · next cause fault =>
      cases h
      exact ⟨cause, fault, rfl⟩
  · cases h

/-- Bytes give back a valid entity, and of an invalid one what is wrong with it. -/
theorem decode_encode (entity : Entity) (fits : entity.encode.length ≤ Format.sizeLimit)
    (restorable : entity.Restorable) (numbers : entity.NumbersReadBack) :
    (entity.validate = .ok () → decode entity.encode = .ok entity) ∧
    ∀ error, entity.validate = .error error →
      decode entity.encode = .error error ∧ ∃ cause, error = .corruptEntity cause := by
  rw [decode_encode_eq_validate fits restorable numbers]
  refine ⟨fun valid => ?_, fun error invalid => ?_⟩
  · rw [valid]
    rfl
  · obtain ⟨cause, _, rfl⟩ := validate_error invalid
    rw [invalid]
    exact ⟨rfl, _, rfl⟩

/--
A negative zero, a control character, the least whole number and a tenth, inside two containers.
-/
def nestedScalar : Entity :=
  .scalar (.object
    [("a", .array
      [.ofDouble ⟨0x8000000000000000⟩, .string "\n\"", .ofInt Int64.minValue.toInt,
        .ofDouble ⟨0x3FB999999999999A⟩])])

theorem nestedScalar_numbersReadBack : nestedScalar.NumbersReadBack := by
  have zero : (Json.Number.real ⟨0x8000000000000000⟩ rfl).ReadsBack := by decide +kernel
  have tenth : (Json.Number.real ⟨0x3FB999999999999A⟩ rfl).ReadsBack :=
    Json.Number.readsBack_short _ ⟨by decide +kernel, by decide +kernel, by decide +kernel⟩
  exact ⟨⟨zero, trivial, Json.Number.readsBack_integer _ _, tenth, trivial⟩, trivial⟩

theorem decode_encode_nestedScalar :
    nestedScalar.encode.length ≤ Format.sizeLimit ∧ nestedScalar.Restorable ∧
      nestedScalar.NumbersReadBack ∧ decode nestedScalar.encode = .ok nestedScalar := by
  have fits : nestedScalar.encode.length ≤ Format.sizeLimit := by decide +kernel
  have restorable : nestedScalar.Restorable := by
    refine ⟨⟨by decide, ⟨trivial, trivial, trivial, trivial, trivial⟩, trivial⟩, by decide⟩
  exact ⟨fits, restorable, nestedScalar_numbersReadBack,
    (decode_encode nestedScalar fits restorable nestedScalar_numbersReadBack).1 rfl⟩

end Entity
end GraphEngine
