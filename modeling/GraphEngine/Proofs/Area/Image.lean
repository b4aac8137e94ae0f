import GraphEngine.Proofs.Entity.RoundTrip
import GraphEngine.Proofs.Files.Places
import GraphEngine.Proofs.Maps
import GraphEngine.Proofs.Result
import GraphEngine.Store

/-!
What an area looks like that holds given entities.

The entities determine everything below the directory of the area, so that one equation between
trees says at once what a save leaves for its own guid and that it leaves all others alone.
-/
namespace GraphEngine.Area

open Files (Updated)

variable {area : Area} {files : Files} {guid : Guid} {entity : Entity}

/-- The directory of a guid. -/
def folder (area : Area) (guid : Guid) : Path := area.path ++ [guid.text]

theorem directory_of_isSafe (safe : guid.isSafe = true) :
    area.directory guid = .ok (area.folder guid) := by
  simp [directory, Guid.check, safe, folder, bind, Except.bind, pure, Except.pure]

theorem directory_of_not_isSafe (unsafeGuid : guid.isSafe = false) :
    area.directory guid = .error (.invalidGuid guid) := by
  simp [directory, Guid.check, unsafeGuid, bind, Except.bind]

theorem eq_folder_of_directory {place : Path} (h : area.directory guid = .ok place) :
    place = area.folder guid := by
  cases safe : guid.isSafe with
  | false =>
      rw [directory_of_not_isSafe safe] at h
      cases h
  | true =>
      rw [directory_of_isSafe safe] at h
      exact (Except.ok.inj h).symm

/-- A guid that would lead out of the area is refused before anything is done. -/
theorem save_of_not_isSafe (unsafeGuid : guid.isSafe = false) :
    area.save guid entity files = (.error (.invalidGuid guid), files) := by
  rw [save, saveSteps, directory_of_not_isSafe unsafeGuid]
  rfl

theorem contains_of_not_isSafe (unsafeGuid : guid.isSafe = false) :
    area.contains guid files = .error (.invalidGuid guid) := by
  rw [contains, directory_of_not_isSafe unsafeGuid]
  rfl

theorem load_of_not_isSafe (unsafeGuid : guid.isSafe = false) (expected : Option Kind) :
    area.load guid expected files = .error (.invalidGuid guid) := by
  rw [load, contains_of_not_isSafe unsafeGuid]
  rfl

theorem contains_of_isSafe (safe : guid.isSafe = true) :
    area.contains guid files
      = (files.has (area.folder guid ++ [markerName])).mapError SystemFault.toError := by
  simp only [contains, directory_of_isSafe safe, bind, Except.bind]

theorem isSafe_of_contains {stored : Bool} (h : area.contains guid files = .ok stored) :
    guid.isSafe = true := by
  cases safe : guid.isSafe with
  | true => rfl
  | false =>
      rw [contains_of_not_isSafe safe] at h
      cases h

theorem contains_eq_true : area.contains guid files = .ok true ↔
    guid.isSafe = true ∧ (files.node? (area.folder guid ++ [markerName])).isSome = true := by
  constructor
  · intro marked
    have safe := isSafe_of_contains marked
    refine ⟨safe, ?_⟩
    rw [contains_of_isSafe safe, Files.has, Files.find] at marked
    cases found : files.node? (area.folder guid ++ [markerName]) with
    | some node => rfl
    | none =>
        rw [found] at marked
        cases absent : files.absence (area.folder guid ++ [markerName]) <;>
          simp [absent, Except.mapError] at marked
  · rintro ⟨safe, marked⟩
    obtain ⟨node, found⟩ := Option.isSome_iff_exists.mp marked
    rw [contains_of_isSafe safe, Files.has, Files.find, found]
    rfl

/-- The marker is not there, and no file is in the way to where it would be. -/
structure Unmarked (area : Area) (guid : Guid) (files : Files) : Prop where
  absent : files.node? (area.folder guid ++ [markerName]) = none
  reachable : ∀ place ∈ (area.folder guid ++ [markerName]).above, files.isFile place = false

theorem contains_eq_false : area.contains guid files = .ok false ↔
    guid.isSafe = true ∧ area.Unmarked guid files := by
  constructor
  · intro unmarked
    have safe := isSafe_of_contains unmarked
    rw [contains_of_isSafe safe, Files.has, Files.find] at unmarked
    cases found : files.node? (area.folder guid ++ [markerName]) with
    | some node =>
        rw [found] at unmarked
        cases unmarked
    | none =>
        refine ⟨safe, found, fun place onTheWay => Bool.eq_false_iff.mpr fun stands => ?_⟩
        have blocked : files.absence (area.folder guid ++ [markerName]) = .notADirectory :=
          if_pos (List.any_of_mem onTheWay stands)
        rw [found, blocked] at unmarked
        cases unmarked
  · rintro ⟨safe, absent, reachable⟩
    rw [contains_of_isSafe safe, Files.has_eq reachable, absent]
    rfl

theorem load_of_contains_eq_false (h : area.contains guid files = .ok false)
    (expected : Option Kind) :
    area.load guid expected files = .error (.entityNotFound guid) := by
  simp [load, bind, Except.bind, h]

theorem load_eq_ok : area.load guid none files = .ok entity ↔
    area.contains guid files = .ok true ∧
      ∃ content, files.node? (area.folder guid ++ [dataName]) = some (.file content) ∧
        decodeAs none guid content = .ok entity := by
  constructor
  · intro loaded
    obtain ⟨stored, marked, loaded⟩ := Result.bind_eq_ok.mp loaded
    cases stored with
    | false => cases loaded
    | true =>
        refine ⟨marked, ?_⟩
        rw [if_pos rfl] at loaded
        obtain ⟨content, reads, decoded⟩ := Result.bind_eq_ok.mp loaded
        simp only [readData, directory_of_isSafe (isSafe_of_contains marked), bind, Except.bind,
          Files.read, Files.find] at reads
        cases found : files.node? (area.folder guid ++ [dataName]) with
        | none => simp [found] at reads
        | some node =>
            cases node with
            | directory isWritable => simp [found] at reads
            | file data =>
                simp only [found, Except.ok.injEq] at reads
                subst reads
                refine ⟨data, rfl, ?_⟩
                cases result : decodeAs none guid data with
                | error error => simp [result, Except.mapError] at decoded
                | ok read => simpa [result, Except.mapError] using decoded
  · rintro ⟨marked, content, found, decoded⟩
    simp [load, readData, directory_of_isSafe (isSafe_of_contains marked), bind, Except.bind,
      marked, Files.read, Files.find, found, decoded, Except.mapError]

/-- The temporary file has gone once the content stands in its place. -/
theorem perform_replaceSteps {directory : Path} {name : String} (bytes : List UInt8)
    (h : files.IsOpen directory) (noDirectory : files.isDirectory (directory ++ [name]) = false)
    (noTemporary : files.isDirectory (directory ++ [temporaryName name]) = false) :
    ∃ changed, files.perform (replaceSteps directory name bytes) = (.ok (), changed) ∧
      Updated files changed
        [(directory ++ [name], some (.file (.ofBytes bytes))),
          (directory ++ [temporaryName name], none)] := by
  obtain ⟨created, creates, creation⟩ := h.createFile noTemporary
  obtain ⟨written, writes, writing⟩ := Files.append_of_node? bytes (by simp)
    (show created.node? (directory ++ [temporaryName name]) = some (.file .empty) by
      simp [creation.node?])
  have both := creation.trans writing
  have stands : written.node? (directory ++ [temporaryName name])
      = some (.file (.ofBytes bytes)) := by
    simp [both.node?, Content.append, Content.toList, Content.empty, Content.ofBytes]
  have stillOpen : written.IsOpen directory := h.updated both (by simp)
  have stillFree := both.isDirectory_eq_false noDirectory (by simp)
  obtain ⟨moved, moves, moving⟩ := stillOpen.rename stands stillFree
  refine ⟨moved, ?_, (both.trans moving).congr fun place => ?_⟩
  · rw [replaceSteps, Files.perform_cons creates, Files.perform_cons writes,
      Files.perform_cons moves, Files.perform]
  · simp only [List.cons_append, List.nil_append, List.lookup_cons, List.lookup_nil]
    cases place == directory ++ [name] <;> cases place == directory ++ [temporaryName name] <;> rfl

/-- No directory stands where a save writes its files. -/
structure Ready (area : Area) (guid : Guid) (files : Files) : Prop where
  isOpen : files.IsOpen area.path
  folder : files.node? (area.folder guid) = none ∨
    files.node? (area.folder guid) = some (.directory true)
  marker : files.isDirectory (area.folder guid ++ [markerName]) = false
  data : files.isDirectory (area.folder guid ++ [dataName]) = false
  temporary : files.isDirectory (area.folder guid ++ [temporaryName dataName]) = false

/-- What a save leaves. -/
def saved (area : Area) (guid : Guid) (entity : Entity) : List (Path × Option Node) :=
  [(area.folder guid ++ [markerName], some (.file .empty)),
    (area.folder guid ++ [dataName], some (.file (.ofBytes entity.encode))),
    (area.folder guid ++ [temporaryName dataName], none),
    (area.folder guid, some (.directory true))]

theorem save_of_ready (entity : Entity) (safe : guid.isSafe = true)
    (ready : area.Ready guid files) :
    ∃ changed, area.save guid entity files = (.ok (), changed) ∧
      Updated files changed (area.saved guid entity) := by
  obtain ⟨made, makes, making⟩ := ready.isOpen.makeDirectories ready.folder
  rw [← folder] at makes making
  have openFolder : made.IsOpen (area.folder guid) :=
    (ready.isOpen.updated making (by simp [folder])).child
      (by rw [← folder, making.node?]; simp)
  have free : ∀ name, files.isDirectory (area.folder guid ++ [name]) = false →
      made.isDirectory (area.folder guid ++ [name]) = false := by
    intro name noDirectory
    rwa [Files.isDirectory, making.node?_of_notMem (by simp [folder])]
  obtain ⟨cleared, clears, clearing⟩ := openFolder.clear (free _ ready.marker)
  have noDirectories := fun name noDirectory =>
    clearing.isDirectory_eq_false (free name noDirectory) (by simp)
  have stillOpen : cleared.IsOpen (area.folder guid) := openFolder.updated clearing (by simp)
  obtain ⟨replaced, replaces, replacing⟩ :=
    perform_replaceSteps entity.encode stillOpen (noDirectories _ ready.data)
      (noDirectories _ ready.temporary)
  obtain ⟨marked, marks, marking⟩ :=
    (stillOpen.updated replacing (by simp)).createFile
      (replacing.isDirectory_eq_false (noDirectories _ ready.marker) (by simp))
  refine ⟨marked, ?_, (((making.trans clearing).trans replacing).trans marking).congr ?_⟩
  · have performs : files.perform (([.makeDirectories (area.folder guid),
          .clear (area.folder guid ++ [markerName])]
        ++ replaceSteps (area.folder guid) dataName entity.encode)
        ++ [.createFile (area.folder guid ++ [markerName])]) = (.ok (), marked) := by
      rw [List.append_assoc, List.cons_append, List.cons_append, List.nil_append,
        Files.perform_cons makes, Files.perform_cons clears, Files.perform_append replaces,
        Files.perform_cons marks, Files.perform]
    rw [save, saveSteps, directory_of_isSafe safe]
    simp only [performAll, bind, Except.bind, pure, Except.pure, performs]
    rfl
  · intro place
    simp only [saved, List.cons_append, List.nil_append, List.lookup_cons, List.lookup_nil]
    cases place == area.folder guid ++ [markerName] <;>
      cases place == area.folder guid ++ [dataName] <;>
        cases place == area.folder guid ++ [temporaryName dataName] <;> rfl

theorem Ready.keeps {changed : Files} (ready : area.Ready guid files)
    (update : Updated files changed (area.saved guid entity)) : Files.Keeps files changed := by
  refine .of_updated update ?_
  simp only [saved, List.forall_mem_cons]
  refine ⟨?_, ?_, ?_, fun _ => ⟨true, rfl⟩, by simp⟩ <;> intro stands
  · cases ready.marker.symm.trans stands
  · cases ready.data.symm.trans stands
  · cases ready.temporary.symm.trans stands

/-- What stands at a place inside an area that holds the entities. -/
def image (stored : Memory) : Path → Option Node
  | [folder] => if stored.contains ⟨folder⟩ then some (.directory true) else none
  | [folder, name] =>
      stored[(⟨folder⟩ : Guid)]?.bind fun entity =>
        if name = markerName then some (.file .empty)
        else if name = dataName then some (.file (.ofBytes entity.encode))
        else none
  | _ => none

/-- The entities that come back from their bytes. -/
structure Readable (entity : Entity) : Prop where
  valid : entity.validate = .ok ()
  fits : entity.encode.length ≤ Format.sizeLimit
  restorable : entity.Restorable
  numbers : entity.NumbersReadBack

/-- The entities that come back from the ordered area as they went there. -/
structure Storable (entity : Entity) : Prop where
  notScalar : entity.isScalar = false
  valid : entity.validate = .ok ()
  fits : entity.encode.length ≤ Format.sizeLimit

theorem Storable.readable (storable : Storable entity) : Readable entity :=
  ⟨storable.valid, storable.fits, Entity.restorable_of_not_scalar storable.notScalar,
    Entity.numbersReadBack_of_not_scalar storable.notScalar⟩

/-- The entity, which must be of the kind if one is expected. -/
def ofKind (guid : Guid) (entity : Entity) : Option Kind → Except EngineError Entity
  | none => .ok entity
  | some kind =>
      if entity.kind = kind then .ok entity else .error (.wrongKind guid kind entity.kind)

theorem first_encode (entity : Entity) (size : Nat) :
    Entity.headerKind size ((Content.ofBytes entity.encode).first Format.headerSize)
      = .ok entity.kind := by
  rw [← Entity.headerKind_encode entity size]
  rfl

theorem decodeAs_encode (readable : Readable entity) (expected : Option Kind) :
    decodeAs expected guid (.ofBytes entity.encode) = ofKind guid entity expected := by
  have decodes : Entity.decode (Content.ofBytes entity.encode).toList = .ok entity := by
    rw [Content.toList, Content.ofBytes, List.replicate_zero, List.append_nil,
      Entity.decode_encode_eq_validate readable.fits readable.restorable readable.numbers,
      readable.valid]
    rfl
  have size : Entity.checkSize (Content.ofBytes entity.encode).size = .ok () :=
    if_pos readable.fits
  simp only [decodeAs, size, first_encode, decodes, bind, Except.bind]
  cases expected <;> rfl

/-- The area looks as one does that holds these entities and nothing besides. -/
structure Shows (area : Area) (files : Files) (stored : Memory) : Prop where
  isOpen : files.IsOpen area.path
  below : ∀ name rest, files.node? (area.path ++ name :: rest) = image stored (name :: rest)

/-- The area is there, and nothing is in it. -/
structure IsEmpty (area : Area) (files : Files) : Prop where
  isOpen : files.IsOpen area.path
  below : ∀ name rest, files.node? (area.path ++ name :: rest) = none

namespace Shows

variable {stored : Memory} {changed : Files}

theorem of_isEmpty (isEmpty : area.IsEmpty files) : area.Shows files ∅ := by
  refine ⟨isEmpty.isOpen, fun name rest => ?_⟩
  rw [isEmpty.below]
  rcases rest with _ | ⟨file, _ | ⟨inner, rest⟩⟩ <;> simp [image]

theorem folder (h : area.Shows files stored) :
    files.node? (area.folder guid)
      = if stored.contains guid then some (.directory true) else none :=
  h.below guid.text []

theorem inFolder (h : area.Shows files stored) (name : String) :
    files.node? (area.folder guid ++ [name]) = image stored [guid.text, name] := by
  rw [Area.folder, List.append_assoc]
  exact h.below guid.text [name]

theorem isDirectory_inFolder (h : area.Shows files stored) (name : String) :
    files.isDirectory (area.folder guid ++ [name]) = false := by
  rw [Files.isDirectory, h.inFolder, image]
  cases stored[(⟨guid.text⟩ : Guid)]? with
  | none => rfl
  | some entity =>
      rw [Option.bind_some]
      by_cases marker : name = markerName
      · rw [if_pos marker]
      · rw [if_neg marker]
        by_cases data : name = dataName
        · rw [if_pos data]
        · rw [if_neg data]

theorem ready (h : area.Shows files stored) : area.Ready guid files where
  isOpen := h.isOpen
  folder := by
    rw [h.folder]
    split
    · exact .inr rfl
    · exact .inl rfl
  marker := h.isDirectory_inFolder markerName
  data := h.isDirectory_inFolder dataName
  temporary := h.isDirectory_inFolder (temporaryName dataName)

theorem isFile_above (h : area.Shows files stored) (name : String) :
    ∀ place ∈ (area.folder guid ++ [name]).above, files.isFile place = false := by
  intro place onTheWay
  rw [Path.above_append, List.mem_append, List.mem_singleton] at onTheWay
  rcases onTheWay with onTheWay | rfl
  · exact h.isOpen.isFile_above place onTheWay
  · rw [Files.isFile, h.folder]
    cases stored.contains guid <;> rfl

theorem contains_eq (h : area.Shows files stored) (safe : guid.isSafe = true) :
    area.contains guid files = .ok (stored.contains guid) := by
  have marked : (image stored [guid.text, markerName]).isSome = stored.contains guid := by
    rw [image, Std.ExtTreeMap.contains_eq_isSome_getElem?]
    cases stored[guid]? <;> simp
  simp only [Area.contains, directory_of_isSafe safe, bind, Except.bind,
    Files.has_eq (h.isFile_above markerName), h.inFolder, marked]
  rfl

/-- Data stands nowhere else than in the directories of the stored guids. -/
theorem stored_of_data {directory : Path} {content : Content} (h : area.Shows files stored)
    (inside : area.path <+: directory)
    (data : files.node? (directory ++ [dataName]) = some (.file content)) :
    ∃ guid entity, stored[(guid : Guid)]? = some entity ∧ directory = area.folder guid ∧
      content = .ofBytes entity.encode := by
  obtain ⟨rest, rfl⟩ := inside
  rw [List.append_assoc] at data
  rcases rest with _ | ⟨name, _ | ⟨inner, rest⟩⟩
  · rw [List.nil_append, h.below, image] at data
    split at data <;> cases data
  · rw [List.cons_append, List.nil_append, h.below, image] at data
    obtain ⟨entity, found, data⟩ := Option.bind_eq_some_iff.mp data
    rw [if_neg (by decide), if_pos rfl] at data
    cases data
    exact ⟨⟨name⟩, entity, found, rfl, rfl⟩
  · rw [List.cons_append, h.below] at data
    cases rest <;> cases data

/-- A save changes the entity of its own guid only. -/
theorem insert (h : area.Shows files stored)
    (update : Updated files changed (area.saved guid entity)) :
    area.Shows changed (stored.insert guid entity) := by
  refine ⟨h.isOpen.updated update (by simp [saved, Area.folder]), fun name rest => ?_⟩
  by_cases own : name = guid.text
  · subst own
    rcases rest with _ | ⟨file, _ | ⟨inner, rest⟩⟩
    · simp [update.node?, saved, Area.folder, Files.getD_lookup_cons, image]
    · rw [update.node?, h.below]
      simp only [saved, Area.folder, Files.getD_lookup_cons, image, List.append_assoc,
        List.cons_append, List.nil_append, List.append_cancel_left_eq, List.cons.injEq,
        true_and, and_true, Std.ExtTreeMap.getElem?_insert_self, Option.bind_some]
      by_cases marker : file = markerName
      · rw [if_pos marker, if_pos marker]
      · by_cases data : file = dataName
        · rw [if_neg marker, if_pos data, if_neg marker, if_pos data]
        · simp [marker, data]
    · rw [update.node?_of_notMem (by simp [saved, Area.folder]), h.below]
      rfl
  · rw [update.node?_of_notMem (by simp [saved, Area.folder, own]), h.below]
    have other : guid ≠ ⟨name⟩ := by
      rintro rfl
      exact own rfl
    rcases rest with _ | ⟨file, _ | ⟨inner, rest⟩⟩ <;>
      simp [image, Std.ExtTreeMap.getElem?_insert, Std.ExtTreeMap.contains_insert, other]

end Shows

/-- The area holds these entities and nothing besides. -/
structure Holds (area : Area) (files : Files) (stored : Memory) : Prop where
  isOpen : files.IsOpen area.path
  below : ∀ name rest, files.node? (area.path ++ name :: rest) = image stored (name :: rest)
  safe : ∀ {guid : Guid} {entity : Entity}, stored[guid]? = some entity → guid.isSafe = true
  storable : ∀ {guid : Guid} {entity : Entity}, stored[guid]? = some entity → Storable entity

namespace Holds

variable {stored : Memory}

theorem shows (h : area.Holds files stored) : area.Shows files stored := ⟨h.isOpen, h.below⟩

theorem of_isEmpty (isEmpty : area.IsEmpty files) : area.Holds files ∅ :=
  ⟨isEmpty.isOpen, (Shows.of_isEmpty isEmpty).below, by simp, by simp⟩

theorem ready (h : area.Holds files stored) : area.Ready guid files := h.shows.ready

theorem contains_eq (h : area.Holds files stored) (safe : guid.isSafe = true) :
    area.contains guid files = .ok (stored.contains guid) := h.shows.contains_eq safe

theorem readData_eq (h : area.Holds files stored) (found : stored[guid]? = some entity) :
    area.readData guid files = .ok (.ofBytes entity.encode) := by
  have stands : files.node? (area.folder guid ++ [dataName])
      = some (.file (.ofBytes entity.encode)) := by
    rw [h.shows.inFolder, image, found]
    rfl
  simp [readData, directory_of_isSafe (h.safe found), bind, Except.bind, Files.read, Files.find,
    stands]

theorem load_of_some (h : area.Holds files stored) (found : stored[guid]? = some entity)
    (expected : Option Kind) : area.load guid expected files = ofKind guid entity expected := by
  have held : stored.contains guid = true := by
    rw [Std.ExtTreeMap.contains_eq_isSome_getElem?, found]
    rfl
  simp only [load, bind, Except.bind, h.contains_eq (h.safe found), held, if_true,
    h.readData_eq found, decodeAs_encode (h.storable found).readable]
  cases expected with
  | none => rfl
  | some kind =>
      rw [ofKind]
      split <;> rfl

theorem load_of_none (h : area.Holds files stored) (safe : guid.isSafe = true)
    (missing : stored[guid]? = none) (expected : Option Kind) :
    area.load guid expected files = .error (.entityNotFound guid) := by
  have absent : stored.contains guid = false := by
    rw [Std.ExtTreeMap.contains_eq_isSome_getElem?, missing]
    rfl
  simp [load, bind, Except.bind, h.contains_eq safe, absent]

/-- A save changes the entity of its own guid only. -/
theorem insert {changed : Files} (h : area.Holds files stored) (safe : guid.isSafe = true)
    (storable : Storable entity) (update : Updated files changed (area.saved guid entity)) :
    area.Holds changed (stored.insert guid entity) := by
  have inserted := h.shows.insert update
  exact ⟨inserted.isOpen, inserted.below,
    Maps.all_insert (P := fun (guid : Guid) _ => guid.isSafe = true) safe h.safe,
    Maps.all_insert (P := fun _ entity => Storable entity) storable h.storable⟩

end Holds

end GraphEngine.Area
