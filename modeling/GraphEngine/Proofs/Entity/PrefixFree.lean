import GraphEngine.Proofs.Entity.Spelling
import GraphEngine.Proofs.Payload.Continuation

/-!
Where the bytes of an entity end.

Bytes that are decoded as an entity say themselves how far they go. Shorter ones are found to be cut
off and longer ones to go on too long, so neither is taken for an entity, whatever the kind and
however its words are spelled.
-/
namespace GraphEngine

namespace Payload

theorem incremental_longs : Incremental longs.read := incremental_list incremental_long

theorem incremental_vertexSet : Incremental vertexSet.read :=
  incremental_view incremental_longs _ _

theorem incremental_edgeBundle : Incremental edgeBundle.read :=
  incremental_view
    (incremental_pair incremental_longs (incremental_pair incremental_longs incremental_longs)) _ _

theorem incremental_column {α : Type} {item : Layout α} (h : Incremental item.read) :
    Incremental (column item).read :=
  incremental_view (incremental_pair (incremental_list h) (incremental_list incremental_flag)) _ _

end Payload

namespace Entity

open Payload (Incremental Layout)

variable {entity : Entity} {bytes cut more payload : List UInt8} {kind : Kind}

/-- A payload is one whole value of a layout, of which the entity is made. -/
theorem exists_layout (kind : Kind) :
    ∃ (α : Type) (layout : Layout α) (make : α → Except EngineError Entity),
      Incremental layout.read ∧
        ∀ bytes, readPayload kind bytes = readWhole layout bytes >>= make := by
  have mapped {α : Type} {layout : Layout α} (make : α → Entity) (bytes : List UInt8) :
      (readWhole layout bytes).map make
        = readWhole layout bytes >>= fun value => .ok (make value) :=
    by cases readWhole layout bytes <;> rfl
  cases kind with
  | vertexSet => exact ⟨_, _, _, Payload.incremental_vertexSet, mapped _⟩
  | edgeBundle => exact ⟨_, _, _, Payload.incremental_edgeBundle, mapped _⟩
  | stringAttribute =>
      exact ⟨_, _, _, Payload.incremental_column Payload.incremental_text, mapped _⟩
  | doubleAttribute =>
      exact ⟨_, _, _, Payload.incremental_column Payload.incremental_double, mapped _⟩
  | longAttribute =>
      exact ⟨_, _, _, Payload.incremental_column Payload.incremental_long, mapped _⟩
  | doubleTuple2Attribute =>
      exact ⟨_, _, _, Payload.incremental_column
        (Payload.incremental_pair Payload.incremental_double Payload.incremental_double), mapped _⟩
  | doubleVectorAttribute =>
      exact ⟨_, _, _, Payload.incremental_column
        (Payload.incremental_list Payload.incremental_double), mapped _⟩
  | scalar => exact ⟨_, _, _, Payload.incremental_text, fun _ => rfl⟩

theorem readWhole_eq_ok {α : Type} {layout : Layout α} {value : α} :
    readWhole layout bytes = .ok value ↔ layout.read bytes = .ok (value, []) := by
  unfold readWhole
  split
  · next fails => simp [fails]
  · next reads => simp [reads]
  · next left notEmpty reads =>
      simp only [reads, reduceCtorEq, Except.ok.injEq, Prod.mk.injEq, false_iff, not_and]
      exact fun _ => notEmpty

theorem readPayload_cut (read : readPayload kind (cut ++ more) = .ok entity) (isCut : more ≠ []) :
    readPayload kind cut = .error (.corruptEntity (.badPayload .endOfBytes)) := by
  obtain ⟨_, layout, make, incremental, same⟩ := exists_layout kind
  rw [same] at read ⊢
  obtain ⟨value, whole, _⟩ := Result.bind_eq_ok.mp read
  have early := incremental.read_cut (readWhole_eq_ok.mp whole) isCut
  rw [readWhole, early]
  rfl

theorem readPayload_append (read : readPayload kind bytes = .ok entity) (goesOn : more ≠ []) :
    readPayload kind (bytes ++ more) = .error (.corruptEntity (.trailingBytes more.length)) := by
  obtain ⟨_, layout, make, incremental, same⟩ := exists_layout kind
  rw [same] at read ⊢
  obtain ⟨value, whole, _⟩ := Result.bind_eq_ok.mp read
  have further := incremental.of_ok (readWhole_eq_ok.mp whole) more
  rw [readWhole, further]
  cases more with
  | nil => exact absurd rfl goesOn
  | cons byte rest => rfl

theorem length_header (kind : Kind) : (header kind).length = Format.headerSize := rfl

theorem headerKind_header (kind : Kind) (size : Nat) (payload : List UInt8) :
    headerKind size (header kind ++ payload) = .ok kind := by
  simp [header, headerKind, Format.magic, Kind.ofTag?_tag]

theorem decode_header (kind : Kind) (payload : List UInt8) :
    decode (header kind ++ payload) = do
      checkSize (header kind ++ payload).length
      let entity ← readPayload kind payload
      entity.validate
      return entity := by
  have drops : (header kind ++ payload).drop Format.headerSize = payload := rfl
  simp only [decode, peekKind, headerKind_header, drops, bind, Except.bind]

theorem decode_of_short (short : bytes.length < Format.headerSize) :
    decode bytes = .error (.corruptEntity (.tooShort bytes.length)) := by
  have small : checkSize bytes.length = .ok () := by
    rw [checkSize, if_pos]
    simp only [Format.headerSize, Format.sizeLimit] at short ⊢
    omega
  have noHeader : headerKind bytes.length bytes
      = .error (.corruptEntity (.tooShort bytes.length)) := by
    unfold headerKind
    split
    · simp only [List.length_cons, Format.headerSize] at short
      omega
    · rfl
  simp only [decode, peekKind, small, noHeader, bind, Except.bind]

/-- How bytes are refused that end too early. -/
def cutOff (bytes : List UInt8) : Corruption :=
  if bytes.length < Format.headerSize then .tooShort bytes.length else .badPayload .endOfBytes

/-- How an entity is refused that is followed by more. -/
def overlong (bytes more : List UInt8) : Corruption :=
  let size := (bytes ++ more).length
  if size ≤ Format.sizeLimit then .trailingBytes more.length else .tooLarge size

/-- Bytes of one entity neither begin nor continue those of another. -/
theorem decode_prefix_free (decoded : decode bytes = .ok entity) :
    (∀ cut, cut <+: bytes → cut ≠ bytes → decode cut = .error (.corruptEntity (cutOff cut))) ∧
    ∀ more, more ≠ [] →
      decode (bytes ++ more) = .error (.corruptEntity (overlong bytes more)) := by
  obtain ⟨kind, payload, rfl, small, read, _⟩ := decode_eq_ok decoded
  constructor
  · rintro cut ⟨more, whole⟩ strict
    have isCut : more ≠ [] := by
      rintro rfl
      exact strict (by rw [← whole, List.append_nil])
    by_cases short : cut.length < Format.headerSize
    · rw [decode_of_short short, cutOff, if_pos short]
    · -- The header is whole, and what is cut is the payload.
      have headed : header kind <+: cut := by
        refine List.prefix_of_prefix_length_le ⟨payload, rfl⟩ ⟨more, whole⟩ ?_
        rw [length_header]
        omega
      obtain ⟨front, rfl⟩ := headed
      rw [List.append_assoc, List.append_cancel_left_eq] at whole
      rw [← whole] at read small
      have fits : checkSize (header kind ++ front).length = .ok () := by
        rw [checkSize, if_pos]
        simp only [List.length_append] at small ⊢
        omega
      rw [decode_header, fits, readPayload_cut read isCut, cutOff, if_neg short]
      rfl
  · intro more goesOn
    rw [overlong, List.append_assoc, decode_header, checkSize]
    split
    · rw [readPayload_append read goesOn]
      rfl
    · rfl

theorem decode_prefix_free_paddedVertices :
    decode paddedVertices = .ok (.vertexSet ⟨[3, 5]⟩) ∧
      decode (paddedVertices.take 10) = .error (.corruptEntity (.badPayload .endOfBytes)) ∧
      decode (paddedVertices ++ [0]) = .error (.corruptEntity (.trailingBytes 1)) := by
  have decoded : decode paddedVertices = .ok (.vertexSet ⟨[3, 5]⟩) := by decide +kernel
  obtain ⟨shorter, longer⟩ := decode_prefix_free decoded
  exact ⟨decoded, shorter _ (List.take_prefix 10 paddedVertices) (by decide),
    longer [0] (by simp)⟩

end Entity
end GraphEngine
