import GraphEngine.Proofs.Entity.PrefixFree
import GraphEngine.Proofs.Entity.Spelling
import GraphEngine.Proofs.Files.Text
import GraphEngine.Proofs.Store.Refinement

/-!
Loading with a kind in mind.

The kind that is expected is compared with the header before the rest of the data is decoded. Since
what is decoded is of the kind in its header, this shows only where the data is of another kind:
there the load fails with the kinds, whether or not the rest of the data can be decoded.
-/
namespace GraphEngine

namespace Content

theorem first_eq_take (content : Content) (count : Nat) :
    content.first count = content.toList.take count := by
  rw [first, toList, List.take_append, List.take_append, List.take_replicate, List.take_replicate]
  congr 2
  omega

end Content

namespace Entity

variable {bytes : List UInt8} {entity : Entity} {kind : Kind} {size : Nat}

/-- No more than the header is looked at. -/
theorem headerKind_take :
    headerKind size (bytes.take Format.headerSize) = headerKind size bytes := by
  rcases bytes with _ | ⟨_, _ | ⟨_, _ | ⟨_, _ | ⟨_, _ | ⟨_, _ | ⟨_, _⟩⟩⟩⟩⟩⟩ <;> rfl

theorem headerKind_eq_ok :
    headerKind size bytes = .ok kind ↔ ∃ payload, bytes = header kind ++ payload := by
  constructor
  · exact fun peeked => ⟨_, eq_header_of_headerKind peeked⟩
  · rintro ⟨payload, rfl⟩
    exact headerKind_header kind size payload

theorem kind_of_map {α : Type} {read : Except EngineError α} {make : α → Entity}
    (own : ∀ value, (make value).kind = kind) (h : read.map make = .ok entity) :
    entity.kind = kind := by
  cases read with
  | error error => cases h
  | ok value =>
      cases h
      exact own value

theorem kind_of_readPayload (h : readPayload kind bytes = .ok entity) : entity.kind = kind := by
  cases kind with
  | scalar =>
      obtain ⟨text, _, parsed⟩ := Result.bind_eq_ok.mp h
      split at parsed
      · cases parsed
        rfl
      · cases parsed
  | _ => exact kind_of_map (fun _ => rfl) h

theorem header_of_decode (decoded : decode bytes = .ok entity) :
    ∃ payload, bytes = header entity.kind ++ payload := by
  obtain ⟨kind, payload, rfl, _, read, _⟩ := decode_eq_ok decoded
  exact ⟨payload, by rw [kind_of_readPayload read]⟩

end Entity

namespace Area

variable {area : Area} {files : Files} {guid : Guid} {kind other : Kind} {content : Content}

/-- The guid is stored, and its data can be read and begins with the header of another kind. -/
structure Mislabelled (area : Area) (guid : Guid) (kind other : Kind) (files : Files) : Prop where
  stored : area.contains guid files = .ok true
  data : ∃ content, area.readData guid files = .ok content ∧ content.size ≤ Format.sizeLimit ∧
    ∃ payload, content.toList = Entity.header other ++ payload
  different : other ≠ kind

theorem headerKind_first : Entity.headerKind content.size (content.first Format.headerSize)
    = Entity.peekKind content.toList := by
  rw [Content.first_eq_take, Entity.headerKind_take, Entity.peekKind, Content.length_toList]

/-- Without an expectation the checks that come first are those of the decoding itself. -/
theorem decodeAs_none : decodeAs none guid content = Entity.decode content.toList := by
  rw [decodeAs, headerKind_first, ← Content.length_toList]
  cases size : Entity.checkSize content.toList.length with
  | error error => simp only [Entity.decode, size, bind, Except.bind]
  | ok _ =>
      cases peeked : Entity.peekKind content.toList with
      | error error => simp only [Entity.decode, size, peeked, bind, Except.bind]
      | ok found => rfl

theorem decodeAs_of_other (fits : content.size ≤ Format.sizeLimit)
    (headed : ∃ payload, content.toList = Entity.header other ++ payload)
    (different : other ≠ kind) :
    decodeAs (some kind) guid content = .error (.wrongKind guid kind other) := by
  have size : Entity.checkSize content.size = .ok () := if_pos fits
  have peeked : Entity.peekKind content.toList = .ok other := Entity.headerKind_eq_ok.mpr headed
  rw [decodeAs, headerKind_first, size, peeked]
  exact if_neg different

theorem decodeAs_of_own (own : ∀ other, content.size ≤ Format.sizeLimit →
      (∃ payload, content.toList = Entity.header other ++ payload) → other = kind) :
    decodeAs (some kind) guid content = decodeAs none guid content := by
  rw [decodeAs, decodeAs, headerKind_first]
  by_cases fits : content.size ≤ Format.sizeLimit
  · cases peeked : Entity.peekKind content.toList with
    | error error => rfl
    | ok found =>
        have same := own found fits (Entity.headerKind_eq_ok.mp peeked)
        simp only [bind, Except.bind, same, if_true]
  · rw [Entity.checkSize, if_neg fits]
    rfl

theorem header_of_decodeAs {entity : Entity} (decoded : decodeAs none guid content = .ok entity) :
    content.size ≤ Format.sizeLimit ∧
      ∃ payload, content.toList = Entity.header entity.kind ++ payload := by
  rw [decodeAs_none] at decoded
  obtain ⟨_, _, _, fits, _, _⟩ := Entity.decode_eq_ok decoded
  rw [Content.length_toList] at fits
  exact ⟨fits, Entity.header_of_decode decoded⟩

/-- Looking for the data comes first, and the kind has no part in it. -/
theorem load_of_readData (stored : area.contains guid files = .ok true)
    (reads : area.readData guid files = .ok content) (expected : Option Kind) :
    area.load guid expected files
      = (decodeAs expected guid content).mapError (EngineError.underGuid guid) := by
  simp only [load, stored, reads, bind, Except.bind, if_true]

theorem exists_error_or_readData (area : Area) (guid : Guid) (files : Files) :
    (∃ error, ∀ expected, area.load guid expected files = .error error) ∨
      area.contains guid files = .ok true ∧
        ∃ content, area.readData guid files = .ok content := by
  cases stored : area.contains guid files with
  | error error => exact .inl ⟨error, fun _ => by simp only [load, stored, bind, Except.bind]⟩
  | ok isStored =>
      cases isStored with
      | false => exact .inl ⟨_, load_of_contains_eq_false stored⟩
      | true =>
          cases reads : area.readData guid files with
          | error error =>
              refine .inl ⟨error, fun _ => ?_⟩
              simp only [load, stored, reads, bind, Except.bind, if_true]
          | ok content => exact .inr ⟨rfl, content, rfl⟩

/-- What is loaded has the kind that stands in the header of its data. -/
theorem header_of_load {entity : Entity} (loaded : area.load guid none files = .ok entity) :
    area.contains guid files = .ok true ∧ ∃ content, area.readData guid files = .ok content ∧
      content.size ≤ Format.sizeLimit ∧
        ∃ payload, content.toList = Entity.header entity.kind ++ payload := by
  rcases exists_error_or_readData area guid files with ⟨error, fails⟩ | ⟨stored, content, reads⟩
  · cases (fails none).symm.trans loaded
  · rw [load_of_readData stored reads] at loaded
    cases decoded : decodeAs none guid content with
    | error error =>
        rw [decoded] at loaded
        cases loaded
    | ok read =>
        rw [decoded] at loaded
        cases loaded
        exact ⟨stored, content, reads, header_of_decodeAs decoded⟩

theorem Mislabelled.kind_eq {entity : Entity} (h : area.Mislabelled guid kind other files)
    (loaded : area.load guid none files = .ok entity) : entity.kind = other := by
  obtain ⟨_, content, reads, _, headed⟩ := header_of_load loaded
  obtain ⟨_, same, _, headedToo⟩ := h.data
  cases reads.symm.trans same
  have first : Entity.peekKind content.toList = .ok _ := Entity.headerKind_eq_ok.mpr headed
  have second : Entity.peekKind content.toList = .ok _ := Entity.headerKind_eq_ok.mpr headedToo
  exact Except.ok.inj (first.symm.trans second)

theorem Mislabelled.load (h : area.Mislabelled guid kind other files) :
    area.load guid (some kind) files = .error (.wrongKind guid kind other) := by
  obtain ⟨content, reads, fits, headed⟩ := h.data
  rw [load_of_readData h.stored reads, decodeAs_of_other fits headed h.different]
  rfl

/-- Where the data is not that of another kind, nothing comes of the expectation. -/
theorem load_of_not_mislabelled (own : ∀ other, ¬ area.Mislabelled guid kind other files) :
    area.load guid (some kind) files = area.load guid none files := by
  rcases exists_error_or_readData area guid files with ⟨error, fails⟩ | ⟨stored, content, reads⟩
  · rw [fails, fails]
  · rw [load_of_readData stored reads, load_of_readData stored reads, decodeAs_of_own]
    intro other fits headed
    exact Decidable.not_not.mp fun different =>
      own other ⟨stored, ⟨content, reads, fits, headed⟩, different⟩

theorem load_some_eq_ok {entity : Entity} : area.load guid (some kind) files = .ok entity ↔
    area.load guid none files = .ok entity ∧ entity.kind = kind := by
  by_cases mislabelled : ∃ other, area.Mislabelled guid kind other files
  · obtain ⟨other, mislabelled⟩ := mislabelled
    rw [mislabelled.load]
    constructor
    · intro loaded
      cases loaded
    · rintro ⟨loaded, own⟩
      exact absurd ((mislabelled.kind_eq loaded).symm.trans own) mislabelled.different
  · rw [load_of_not_mislabelled (not_exists.mp mislabelled)]
    refine ⟨fun loaded => ⟨loaded, Decidable.not_not.mp fun different => mislabelled ?_⟩, And.left⟩
    obtain ⟨stored, data⟩ := header_of_load loaded
    exact ⟨_, stored, data, different⟩

end Area

namespace Store

/-- A load with an expected kind succeeds as the load without one does and its entity is of the
kind. An entity of another kind is refused with both kinds. Where the load without an expectation
fails, the one with it fails in the same way, unless it has met the header of another kind. An
entity is promoted just as it is loaded, and what cannot be loaded leaves the memory alone. -/
theorem loads_agree (store : Store) (guid : Guid) (kind : Kind) :
    (∀ entity, store.load guid (some kind) = .ok entity ↔
      store.load guid none = .ok entity ∧ entity.kind = kind) ∧
    (∀ entity, store.load guid none = .ok entity → entity.kind ≠ kind →
      store.load guid (some kind) = .error (.wrongKind guid kind entity.kind)) ∧
    (∀ error, store.load guid none = .error error →
      (∀ other, store.ordered.Mislabelled guid kind other store.files →
        store.load guid (some kind) = .error (.wrongKind guid kind other)) ∧
      ((∀ other, ¬ store.ordered.Mislabelled guid kind other store.files) →
        store.load guid (some kind) = .error error)) ∧
    (∀ entity, store.load guid none = .ok entity →
      store.answer (.promote guid) = (.ok (), store.put guid entity)) ∧
    (∀ error, store.load guid none = .error error →
      store.answer (.promote guid) = (.error error, store)) := by
  refine ⟨fun entity => Area.load_some_eq_ok, fun entity loaded different => ?_,
    fun error fails => ⟨fun other mislabelled => mislabelled.load, fun own => ?_⟩,
    fun entity loaded => ?_, fun error fails => ?_⟩
  · obtain ⟨stored, data⟩ := Area.header_of_load loaded
    exact Area.Mislabelled.load ⟨stored, data, different⟩
  · exact (Area.load_of_not_mislabelled own).trans fails
  · rw [answer, promote, loaded]
    rfl
  · rw [answer, promote, fails]
    rfl

/-- Data with the header of a vertex set, without a marker and beyond the limit. -/
def unmarkedVertices : Store :=
  { overTwoAreas with
    files := (twoAreas.put ["ordered", "unmarked"] (.directory true)).put
      ["ordered", "unmarked", Area.dataName] (.file (.ofBytes vertices.encode)) }

def oversizedVertices : Store :=
  { overTwoAreas with
    files := ((twoAreas.put ["ordered", "oversized"] (.directory true)).put
      ["ordered", "oversized", Area.dataName]
        (.file ⟨Entity.header .vertexSet, Format.sizeLimit⟩)).put
      ["ordered", "oversized", Area.markerName] (.file .empty) }

theorem headers_without_mismatch :
    (unmarkedVertices.ordered.readData ⟨"unmarked"⟩ unmarkedVertices.files
        = .ok (.ofBytes vertices.encode) ∧
      vertices.encode = Entity.header .vertexSet ++ vertices.payload ∧
      unmarkedVertices.load ⟨"unmarked"⟩ none = .error (.entityNotFound ⟨"unmarked"⟩) ∧
      unmarkedVertices.load ⟨"unmarked"⟩ (some .edgeBundle)
        ≠ .error (.wrongKind ⟨"unmarked"⟩ .edgeBundle .vertexSet)) ∧
    oversizedVertices.ordered.readData ⟨"oversized"⟩ oversizedVertices.files
        = .ok ⟨Entity.header .vertexSet, Format.sizeLimit⟩ ∧
      oversizedVertices.load ⟨"oversized"⟩ none
        = .error (.corruptEntity (.underGuid ⟨"oversized"⟩ (.tooLarge 2147483654))) ∧
      oversizedVertices.load ⟨"oversized"⟩ (some .edgeBundle)
        ≠ .error (.wrongKind ⟨"oversized"⟩ .edgeBundle .vertexSet) := by
  refine ⟨⟨by decide +kernel, rfl, by decide +kernel, by decide +kernel⟩, by decide +kernel,
    by decide +kernel, by decide +kernel⟩

end Store
end GraphEngine
