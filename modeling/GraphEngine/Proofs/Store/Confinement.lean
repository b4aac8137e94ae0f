import GraphEngine.Proofs.Files.Touching
import GraphEngine.Proofs.Files.Trails
import GraphEngine.Proofs.Persistence.Reordering

/-!
A guid is confined to its own directory.

Either a guid is refused, and then the files are neither changed nor looked at, or all that is done
for it is done in one directory of its area, whose name is the guid. So nothing that is seen of
another guid changes, and nothing outside the area.
-/
namespace GraphEngine

namespace Files

variable {files changed : Files} {path : Path}

theorem find_congr (same : ∀ place, place <+: path → changed.node? place = files.node? place) :
    changed.find path = files.find path := by
  have absent : changed.absence path = files.absence path := by
    refine absence_congr fun place above => ?_
    rw [isFile, isFile, same place (Path.mem_above_append.mp (List.mem_append_left _ above))]
  rw [find, find, same path (List.prefix_refl path), absent]

theorem has_congr (same : ∀ place, place <+: path → changed.node? place = files.node? place) :
    changed.has path = files.has path := by
  rw [has, has, find_congr same]

theorem read_congr (same : ∀ place, place <+: path → changed.node? place = files.node? place) :
    changed.read path = files.read path := by
  rw [read, read, find_congr same]

end Files

namespace Area

variable {area : Area} {files changed : Files} {guid : Guid} {entity : Entity}

/-- The file names that are used in the ordered area, and those for staging. -/
def orderedNames : List String := [markerName, dataName, temporaryName dataName]

def stagingNames : List String := [stagedName, temporaryName stagedName]

theorem follow_folder (safe : guid.isSafe = true)
    (led : files.follow (.ofText area.name) = .ok area.path)
    (stands : files.isDirectory area.path = true) :
    files.follow (.ofText (Path.joinText area.name guid.text)) = .ok (area.folder guid) :=
  Files.follow_joinText (Guid.isName_of_isSafe safe) led stands

theorem follow_placeText (safe : guid.isSafe = true)
    (led : files.follow (.ofText area.name) = .ok area.path)
    (stands : files.isDirectory area.path = true)
    (made : files.isDirectory (area.folder guid) = true) {name : String}
    (isName : Path.IsName name) :
    files.follow (.ofText (area.placeText guid name)) = .ok (area.folder guid ++ [name]) :=
  Files.follow_joinText isName (follow_folder safe led stands) made

theorem contains_congr (same : ∀ name place, place <+: area.folder guid ++ [name] →
    changed.node? place = files.node? place) :
    area.contains guid changed = area.contains guid files := by
  cases safe : guid.isSafe with
  | false => rw [contains_of_not_isSafe safe, contains_of_not_isSafe safe]
  | true => rw [contains_of_isSafe safe, contains_of_isSafe safe, Files.has_congr (same markerName)]

theorem load_congr (same : ∀ name place, place <+: area.folder guid ++ [name] →
    changed.node? place = files.node? place) (expected : Option Kind) :
    area.load guid expected changed = area.load guid expected files := by
  have data : area.readData guid changed = area.readData guid files := by
    unfold readData
    cases named : area.directory guid with
    | error error => rfl
    | ok directory =>
        cases eq_folder_of_directory named
        simp only [bind, Except.bind, Files.read_congr (same dataName)]
  rw [load, load, contains_congr same, data]

theorem stage_of_not_isSafe (unsafeGuid : guid.isSafe = false) :
    area.stage guid entity files = (.error (.invalidGuid guid), files) := by
  rw [stage, stageSteps, directory_of_not_isSafe unsafeGuid]
  rfl

theorem names_replaceSteps {names : List String} {directory : Path} {name : String}
    {bytes : List UInt8} (isFile : name ∈ names) (isTemporary : temporaryName name ∈ names) :
    ∀ step ∈ replaceSteps directory name bytes, step.Names directory names := by
  simp only [replaceSteps, List.forall_mem_cons]
  exact ⟨⟨_, isTemporary, rfl⟩, ⟨_, isTemporary, rfl⟩, ⟨⟨_, isTemporary, rfl⟩, _, isFile, rfl⟩,
    by simp⟩

theorem names_saveSteps {steps : List Files.Step} (listed : area.saveSteps guid entity = .ok steps) :
    ∀ step ∈ steps, step.Names (area.folder guid) orderedNames := by
  obtain ⟨directory, named, listed⟩ := Result.bind_eq_ok.mp listed
  cases eq_folder_of_directory named
  cases listed
  have marker : markerName ∈ orderedNames := by decide
  simp only [List.forall_mem_append, List.forall_mem_cons]
  exact ⟨⟨⟨rfl, ⟨_, marker, rfl⟩, by simp⟩, names_replaceSteps (by decide) (by decide)⟩,
    ⟨_, marker, rfl⟩, by simp⟩

theorem names_stageSteps {steps : List Files.Step}
    (listed : area.stageSteps guid entity = .ok steps) :
    ∀ step ∈ steps, step.Names (area.folder guid) stagingNames := by
  obtain ⟨directory, named, listed⟩ := Result.bind_eq_ok.mp listed
  cases eq_folder_of_directory named
  cases listed
  exact List.forall_mem_cons.mpr ⟨rfl, names_replaceSteps (by decide) (by decide)⟩

theorem Apart.symm {other : Area} (h : area.Apart other) : other.Apart area :=
  ⟨h.notInside, h.notAround⟩

/-- Nothing that belongs to another guid is below the directory of this one, be it in the same area
or in one that is apart. -/
theorem not_below_folder {seen : Area} {other : Guid} (related : area = seen ∨ area.Apart seen)
    (different : other ≠ guid) (rest : Path) :
    ¬ area.folder guid <+: seen.folder other ++ rest := by
  rcases related with rfl | apart
  · exact Files.not_prefix_of_beside (fun same => different (congrArg Guid.mk same.symm)) _ rest
  · intro below
    have called : area.path <+: seen.folder other ++ rest := (List.prefix_append _ _).trans below
    have seenToo : seen.path <+: seen.folder other ++ rest :=
      (List.prefix_append _ _).trans (List.prefix_append _ _)
    rcases List.prefix_or_prefix_of_prefix called seenToo with around | inside
    · exact apart.notAround around
    · exact apart.notInside inside

end Area

namespace Store

/-- What may be done for a guid that involves files. -/
inductive DiskCall where
  | contains
  | load (expected : Option Kind)
  | save (entity : Entity)
  | persist (entity : Entity)
  | promote
  | stage (entity : Entity)

namespace DiskCall

def Answer : DiskCall → Type
  | .contains | .persist _ => Except EngineError Bool
  | .load _ => Except EngineError Entity
  | .save _ | .promote => Except EngineError Unit
  | .stage _ => Except EngineError Staged

/-- The answer when the files are not asked. -/
def refusal (guid : Guid) : (call : DiskCall) → call.Answer
  | .persist entity => if entity.isScalar then .ok false else .error (.invalidGuid guid)
  | .contains => .error (.invalidGuid guid)
  | .load _ => .error (.invalidGuid guid)
  | .save _ => .error (.invalidGuid guid)
  | .promote => .error (.invalidGuid guid)
  | .stage _ => .error (.invalidGuid guid)

/-- Whether an entity is to be persisted that stays in memory. -/
def KeepsInMemory : DiskCall → Prop
  | .persist entity => entity.isScalar = true
  | _ => False

def area (store : Store) : DiskCall → Area
  | .stage _ => store.staging
  | _ => store.ordered

def names : DiskCall → List String
  | .stage _ => Area.stagingNames
  | _ => Area.orderedNames

/-- The changes that the call makes to the files, in their order. -/
def steps (store : Store) (guid : Guid) : DiskCall → List Files.Step
  | .save entity => (store.ordered.saveSteps guid entity).toOption.getD []
  | .persist entity => store.ordered.jobSteps (guid, entity)
  | .stage entity => (store.staging.stageSteps guid entity).toOption.getD []
  | .contains | .load _ | .promote => []

end DiskCall

def callDisk (store : Store) (guid : Guid) : (call : DiskCall) → call.Answer × Store
  | .contains => (store.isOnDisk guid, store)
  | .load expected => (store.load guid expected, store)
  | .save entity => store.save guid entity
  | .persist entity => store.persist guid entity
  | .promote =>
      match store.promote guid with
      | .ok promoted => (.ok (), promoted)
      | .error error => (.error error, store)
  | .stage entity => store.stage guid entity

variable {store : Store} {guid other : Guid} {call : DiskCall}

theorem persist_of_isScalar {entity : Entity} (scalar : entity.isScalar = true) :
    store.persist guid entity
      = (if entity.isScalar then .ok false else .error (.invalidGuid guid), store) := by
  rw [persist, if_pos scalar, if_pos scalar]

theorem persist_of_not_isSafe (unsafeGuid : guid.isSafe = false) (entity : Entity) :
    store.persist guid entity
      = (if entity.isScalar then .ok false else .error (.invalidGuid guid), store) := by
  by_cases scalar : entity.isScalar = true
  · exact persist_of_isScalar scalar
  · rw [persist, if_neg scalar, if_neg scalar, save, Area.save_of_not_isSafe unsafeGuid]
    rfl

theorem callDisk_of_keepsInMemory (keeps : call.KeepsInMemory) (store : Store) (guid : Guid) :
    store.callDisk guid call = (call.refusal guid, store) := by
  cases call with
  | persist entity => exact persist_of_isScalar keeps
  | _ => exact keeps.elim

theorem callDisk_of_not_isSafe (unsafeGuid : guid.isSafe = false) (store : Store)
    (call : DiskCall) : store.callDisk guid call = (call.refusal guid, store) := by
  cases call with
  | contains => exact Prod.ext (Area.contains_of_not_isSafe unsafeGuid) rfl
  | load expected => exact Prod.ext (Area.load_of_not_isSafe unsafeGuid expected) rfl
  | save entity =>
      rw [callDisk, save, Area.save_of_not_isSafe unsafeGuid]
      rfl
  | persist entity => exact persist_of_not_isSafe unsafeGuid entity
  | promote =>
      rw [callDisk, promote, load, Area.load_of_not_isSafe unsafeGuid]
      rfl
  | stage entity =>
      rw [callDisk, stage, Area.stage_of_not_isSafe unsafeGuid]
      rfl

theorem performAll_files (steps : Except EngineError (List Files.Step)) (files : Files) :
    (Area.performAll steps files).2 = (files.perform (steps.toOption.getD [])).2 := by
  cases steps <;> rfl

theorem files_callDisk (store : Store) (guid : Guid) (call : DiskCall) :
    (store.callDisk guid call).2.files = (store.files.perform (call.steps store guid)).2 := by
  cases call with
  | contains | load _ => rfl
  | save entity => exact performAll_files _ _
  | persist entity =>
      have persisted := persist_eq_perform store (guid, entity)
      exact congrArg (·.2.files) persisted
  | promote =>
      rw [callDisk]
      unfold promote
      cases store.load guid none <;> rfl
  | stage entity => exact performAll_files _ _

theorem forall_mem_of_listed {steps : Except EngineError (List Files.Step)}
    {P : Files.Step → Prop} (h : ∀ {list}, steps = .ok list → ∀ step ∈ list, P step) :
    ∀ step ∈ steps.toOption.getD [], P step := by
  cases steps with
  | error error => exact fun _ listed => absurd listed List.not_mem_nil
  | ok list => exact h rfl

theorem names_steps (store : Store) (guid : Guid) (call : DiskCall) :
    ∀ step ∈ call.steps store guid, step.Names ((call.area store).folder guid) call.names := by
  cases call with
  | contains | load _ | promote => exact fun _ listed => absurd listed List.not_mem_nil
  | save entity => exact forall_mem_of_listed Area.names_saveSteps
  | persist entity =>
      intro step listed
      simp only [DiskCall.steps, Area.jobSteps] at listed
      split at listed
      · cases listed
      · split at listed
        · next steps => exact Area.names_saveSteps steps step listed
        · cases listed
  | stage entity => exact forall_mem_of_listed Area.names_stageSteps

theorem areas_callDisk (store : Store) (guid : Guid) (call : DiskCall) :
    (store.callDisk guid call).2.ordered = store.ordered ∧
      (store.callDisk guid call).2.staging = store.staging := by
  cases call with
  | contains | load _ | save _ | stage _ => exact ⟨rfl, rfl⟩
  | persist entity =>
      have persisted := persist_eq_perform store (guid, entity)
      exact ⟨congrArg (·.2.ordered) persisted, congrArg (·.2.staging) persisted⟩
  | promote =>
      rw [callDisk]
      unfold promote
      cases store.load guid none <;> exact ⟨rfl, rfl⟩

theorem get?_callDisk (different : other ≠ guid) (store : Store) (call : DiskCall) :
    (store.callDisk guid call).2.get? other = store.get? other := by
  cases call with
  | contains | load _ | save _ | stage _ => rfl
  | persist entity =>
      have persisted := persist_eq_perform store (guid, entity)
      exact congrArg (·.2.get? other) persisted
  | promote =>
      rw [callDisk]
      unfold promote
      cases store.load guid none with
      | error error => rfl
      | ok entity =>
          refine Std.ExtTreeMap.getElem?_insert.trans (if_neg fun same => different ?_)
          exact (Std.LawfulEqOrd.eq_of_compare same).symm

theorem isOneOf_of_mem_touched (stands : store.files.Stands (call.area store).path) {place : Path}
    (touched : place ∈ store.files.touched (call.steps store guid)) :
    Files.IsOneOf ((call.area store).folder guid) call.names place :=
  Files.isOneOf_of_mem_touched stands (names_steps store guid call) touched

theorem node?_callDisk (stands : store.files.Stands (call.area store).path) {place : Path}
    (elsewhere : ¬ (call.area store).folder guid <+: place) :
    (store.callDisk guid call).2.files.node? place = store.files.node? place := by
  rw [files_callDisk]
  exact Files.node?_perform_of_not_touched fun touched =>
    elsewhere (isOneOf_of_mem_touched stands touched).below

theorem related_area (apart : store.ordered.Apart store.staging) (call : DiskCall) {seen : Area}
    (isSeen : seen = store.ordered ∨ seen = store.staging) :
    call.area store = seen ∨ (call.area store).Apart seen := by
  cases call with
  | stage entity =>
      rcases isSeen with rfl | rfl
      · exact .inr apart.symm
      · exact .inl rfl
  | _ =>
      rcases isSeen with rfl | rfl
      · exact .inl rfl
      · exact .inr apart

/-- What is on the way to the files of another guid stays. -/
theorem node?_of_other (apart : store.ordered.Apart store.staging)
    (stands : store.files.Stands (call.area store).path) {seen : Area}
    (isSeen : seen = store.ordered ∨ seen = store.staging) (different : other ≠ guid) :
    ∀ name place, place <+: seen.folder other ++ [name] →
      (store.callDisk guid call).2.files.node? place = store.files.node? place :=
  fun _ _ onTheWay => node?_callDisk stands fun below =>
    Area.not_below_folder (related_area apart call isSeen) different _ (below.trans onTheWay)

/-- The texts of the places of a guid lead to them. -/
structure Leads (area : Area) (guid : Guid) (names : List String) : Prop where
  folder : ∀ {files : Files}, files.follow (.ofText area.name) = .ok area.path →
    files.isDirectory area.path = true →
      files.follow (.ofText (Path.joinText area.name guid.text)) = .ok (area.folder guid)
  file : ∀ {files : Files}, files.follow (.ofText area.name) = .ok area.path →
    files.isDirectory area.path = true → files.isDirectory (area.folder guid) = true →
      ∀ name ∈ names,
        files.follow (.ofText (area.placeText guid name)) = .ok (area.folder guid ++ [name])

theorem leads_of_isSafe (safe : guid.isSafe = true) (area : Area) (call : DiskCall) :
    Leads area guid call.names := by
  refine ⟨Area.follow_folder safe, fun led stands made name listed =>
    Area.follow_placeText safe led stands made ?_⟩
  have plain : ∀ name ∈ call.names, (Guid.mk name).isSafe = true := by
    cases call with
    | stage entity => exact (by decide : ∀ name ∈ Area.stagingNames, (Guid.mk name).isSafe = true)
    | _ => exact (by decide : ∀ name ∈ Area.orderedNames, (Guid.mk name).isSafe = true)
  exact Guid.isName_of_isSafe (plain name listed)

/-- All that a call does to the files it does in the directory of the guid. -/
structure Confined (store : Store) (guid : Guid) (call : DiskCall) : Prop where
  performed : (store.callDisk guid call).2.files = (store.files.perform (call.steps store guid)).2
  touched : ∀ place ∈ store.files.touched (call.steps store guid),
    Files.IsOneOf ((call.area store).folder guid) call.names place
  untouched : ∀ place ∉ store.files.touched (call.steps store guid),
    (store.callDisk guid call).2.files.node? place = store.files.node? place

/-- Whether or not it succeeds, a call for the guid changes nothing outside its area and nothing that
is seen of another guid. -/
structure SparesOthers (store : Store) (guid : Guid) (call : DiskCall) : Prop where
  outside : ∀ place, ¬ (call.area store).path <+: place →
    (store.callDisk guid call).2.files.node? place = store.files.node? place
  contains : ∀ other, other ≠ guid →
    (store.callDisk guid call).2.isOnDisk other = store.isOnDisk other
  load : ∀ other, other ≠ guid → ∀ expected,
    (store.callDisk guid call).2.load other expected = store.load other expected
  staged : ∀ other, other ≠ guid →
    (store.callDisk guid call).2.files.read (store.staging.folder other ++ [Area.stagedName])
      = store.files.read (store.staging.folder other ++ [Area.stagedName])
  memory : ∀ other, other ≠ guid → (store.callDisk guid call).2.get? other = store.get? other

theorem confined_of_stands (stands : store.files.Stands (call.area store).path) :
    store.Confined guid call where
  performed := files_callDisk store guid call
  touched _ := isOneOf_of_mem_touched stands
  untouched place untouched := by
    rw [files_callDisk]
    exact Files.node?_perform_of_not_touched untouched

theorem sparesOthers_of_stands (apart : store.ordered.Apart store.staging)
    (stands : store.files.Stands (call.area store).path) : store.SparesOthers guid call where
  outside place outside :=
    node?_callDisk stands fun below => outside ((List.prefix_append _ _).trans below)
  contains other different := by
    rw [isOnDisk, isOnDisk, (areas_callDisk store guid call).1]
    exact Area.contains_congr (node?_of_other apart stands (.inl rfl) different)
  load other different expected := by
    rw [load, load, (areas_callDisk store guid call).1]
    exact Area.load_congr (node?_of_other apart stands (.inl rfl) different) expected
  staged other different := Files.read_congr (node?_of_other apart stands (.inr rfl) different _)
  memory other different := get?_callDisk different store call

/-- Over two areas that stand apart, a guid is refused without a look at the files, or it is the name
of one directory of its area and all that is done for it is done there; other guids and everything
outside the area never notice. -/
theorem guid_confined (store : Store) (guid : Guid) (call : DiskCall)
    (apart : store.ordered.Apart store.staging)
    (orderedStands : store.files.Stands store.ordered.path)
    (stagingStands : store.files.Stands store.staging.path) :
    (guid.isSafe = false ∨ call.KeepsInMemory → ∀ files : Files,
      { store with files }.callDisk guid call = (call.refusal guid, { store with files })) ∧
    (guid.isSafe = true → Leads (call.area store) guid call.names) ∧
    store.Confined guid call ∧ store.SparesOthers guid call := by
  have stands : store.files.Stands (call.area store).path := by
    cases call with
    | stage entity => exact stagingStands
    | _ => exact orderedStands
  refine ⟨?_, fun safe => leads_of_isSafe safe _ call, confined_of_stands stands,
    sparesOthers_of_stands apart stands⟩
  rintro (unsafeGuid | keeps) files
  · exact callDisk_of_not_isSafe unsafeGuid _ call
  · exact callDisk_of_keepsInMemory keeps _ guid

theorem stands_twoAreas : twoAreas.Stands ["ordered"] ∧ twoAreas.Stands ["staging"] := by
  have stands : ∀ name : String, twoAreas.isDirectory [name] = true → twoAreas.Stands [name] := by
    intro name found place onTheWay
    rcases List.prefix_concat_iff.mp (show place <+: [] ++ [name] from onTheWay) with rfl | root
    · exact found
    · rw [List.prefix_nil.mp root]
      rfl
  exact ⟨stands _ (by decide +kernel), stands _ (by decide +kernel)⟩

theorem guid_confined_twoAreas :
    overTwoAreas.ordered.Apart overTwoAreas.staging ∧
      overTwoAreas.files.Stands overTwoAreas.ordered.path ∧
      overTwoAreas.files.Stands overTwoAreas.staging.path ∧
      (overTwoAreas.callDisk ⟨"vertices"⟩ (.save (.vertexSet ⟨[3, 5]⟩))).1 = .ok () ∧
      overTwoAreas.SparesOthers ⟨"vertices"⟩ (.save (.vertexSet ⟨[3, 5]⟩)) ∧
      overTwoAreas.callDisk ⟨".."⟩ (.stage (.vertexSet ⟨[3, 5]⟩))
        = (.error (.invalidGuid ⟨".."⟩), overTwoAreas) := by
  have apart : overTwoAreas.ordered.Apart overTwoAreas.staging := ⟨by decide, by decide⟩
  obtain ⟨ordered, staging⟩ := stands_twoAreas
  have confined := fun guid call => guid_confined overTwoAreas guid call apart ordered staging
  have saves : (overTwoAreas.save ⟨"vertices"⟩ (.vertexSet ⟨[3, 5]⟩)).1 = .ok () := by
    decide +kernel
  exact ⟨apart, ordered, staging, saves, (confined _ _).2.2.2,
    (confined ⟨".."⟩ _).1 (.inl (by decide)) twoAreas⟩

end Store
end GraphEngine
