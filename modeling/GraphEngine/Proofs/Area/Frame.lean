import GraphEngine.Proofs.Area.Image
import GraphEngine.Proofs.Result

/-!
What writing in an area leaves alone.

Whether or not a step succeeds, it changes nothing except at the places it names, so writing for a
guid changes nothing outside the directory of the guid and the way to it.
-/
namespace GraphEngine

namespace Files

variable {files changed : Files} {place : Path}

namespace Step

/-- The places at which a step may change something. -/
def Touches : Step → Path → Prop
  | .makeDirectories path, place => place <+: path
  | .clear path, place | .createFile path, place | .append path _, place => place = path
  | .rename source target, place => place = source ∨ place = target

end Step

theorem node?_put_of_ne {path : Path} {node : Node} (h : place ≠ path) :
    (files.put path node).node? place = files.node? place := by
  by_cases root : path = []
  · subst root
    simp [node?, put, h, Std.ExtTreeMap.getElem?_insert, h.symm]
  · rw [node?_put root, if_neg h]

theorem node?_drop_of_ne {path : Path} (h : place ≠ path) :
    (files.drop path).node? place = files.node? place := by
  by_cases root : path = []
  · subst root
    simp [node?, drop, h, Std.ExtTreeMap.getElem?_erase, h.symm]
  · rw [node?_drop root, if_neg h]

theorem node?_ensureDirectory {path : Path} (h : files.ensureDirectory path = .ok changed)
    (elsewhere : place ≠ path) : changed.node? place = files.node? place := by
  unfold ensureDirectory at h
  split at h
  · cases h
    rfl
  · cases h
  · obtain ⟨_, _, made⟩ := Result.bind_eq_ok.mp h
    cases made
    exact node?_put_of_ne elsewhere

theorem node?_makeDirectories {path : Path} (h : files.makeDirectories path = .ok changed)
    (elsewhere : ¬ place <+: path) : changed.node? place = files.node? place := by
  unfold makeDirectories at h
  split at h
  · cases h
  · refine Result.foldlM_induction (P := fun made => made.node? place = files.node? place)
      (fun {state item next} onTheWay same ensured => ?_) rfl h
    rw [← same]
    refine node?_ensureDirectory ensured ?_
    rintro rfl
    rcases List.mem_append.mp onTheWay with above | last
    · obtain ⟨count, _, rfl⟩ := List.mem_map.mp above
      exact elsewhere (List.take_prefix count path)
    · rw [List.mem_singleton.mp last] at elsewhere
      exact elsewhere (List.prefix_refl path)

theorem node?_removeFile {path : Path} (h : files.removeFile path = .ok changed)
    (elsewhere : place ≠ path) : changed.node? place = files.node? place := by
  unfold removeFile at h
  split at h
  · obtain ⟨_, _, removed⟩ := Result.bind_eq_ok.mp h
    cases removed
    exact node?_drop_of_ne elsewhere
  · cases h
  · cases h

theorem node?_createFile {path : Path} (h : files.createFile path = .ok changed)
    (elsewhere : place ≠ path) : changed.node? place = files.node? place := by
  unfold createFile at h
  split at h
  · cases h
  · cases h
    exact node?_put_of_ne elsewhere
  · obtain ⟨_, _, created⟩ := Result.bind_eq_ok.mp h
    cases created
    exact node?_put_of_ne elsewhere

theorem node?_renameFile {source target : Path} (h : files.renameFile source target = .ok changed)
    (notSource : place ≠ source) (notTarget : place ≠ target) :
    changed.node? place = files.node? place := by
  unfold renameFile at h
  obtain ⟨content, _, h⟩ := Result.bind_eq_ok.mp h
  split at h
  · cases h
  · obtain ⟨_, _, renamed⟩ := Result.bind_eq_ok.mp h
    cases renamed
    rw [node?_put_of_ne notTarget, node?_drop_of_ne notSource]

theorem node?_apply {step : Step} (h : step.apply files = .ok changed)
    (untouched : ¬ step.Touches place) : changed.node? place = files.node? place := by
  cases step with
  | makeDirectories path => exact node?_makeDirectories h untouched
  | clear path =>
      simp only [Step.apply] at h
      split at h
      · cases h
        rfl
      · exact node?_removeFile h untouched
  | createFile path => exact node?_createFile h untouched
  | append path bytes =>
      obtain ⟨content, _, written⟩ := Result.bind_eq_ok.mp h
      cases written
      exact node?_put_of_ne untouched
  | rename source target =>
      exact node?_renameFile h (fun same => untouched (.inl same))
        (fun same => untouched (.inr same))

theorem node?_perform {steps : List Step} (untouched : ∀ step ∈ steps, ¬ step.Touches place) :
    (files.perform steps).2.node? place = files.node? place := by
  induction steps generalizing files with
  | nil => rfl
  | cons step rest ih =>
      rw [perform]
      split
      · next changed applied =>
          rw [ih fun other inRest => untouched other (List.mem_cons_of_mem _ inRest)]
          exact node?_apply applied (untouched step List.mem_cons_self)
      · rfl

variable {isWritable : Bool}

theorem ne_of_file {path : Path} {content : Content}
    (stands : files.node? place = some (.directory isWritable))
    (found : files.node? path = some (.file content)) : place ≠ path := by
  rintro rfl
  cases stands.symm.trans found

theorem node?_of_read_eq_ok {path : Path} {content : Content}
    (h : files.read path = .ok content) : files.node? path = some (.file content) := by
  unfold read find at h
  split at h
  · next found =>
      split at found
      · cases found
        cases h
        assumption
      · cases found
  · cases h
  · cases h

theorem directory_ensureDirectory {path : Path} (h : files.ensureDirectory path = .ok changed)
    (stands : files.node? place = some (.directory isWritable)) :
    changed.node? place = some (.directory isWritable) := by
  by_cases same : place = path
  · subst same
    rw [ensureDirectory, stands] at h
    cases h
    exact stands
  · rw [node?_ensureDirectory h same, stands]

theorem directory_apply {step : Step} (h : step.apply files = .ok changed)
    (stands : files.node? place = some (.directory isWritable)) :
    changed.node? place = some (.directory isWritable) := by
  cases step with
  | makeDirectories path =>
      simp only [Step.apply, makeDirectories] at h
      split at h
      · cases h
      · exact Result.foldlM_induction (P := fun made => made.node? place = _)
          (fun _ stands ensured => directory_ensureDirectory ensured stands) stands h
  | clear path =>
      by_cases same : place = path
      · subst same
        simp only [Step.apply, removeFile, find, stands] at h
        cases h
      · rw [node?_apply h same, stands]
  | createFile path =>
      by_cases same : place = path
      · subst same
        simp only [Step.apply, createFile, stands] at h
        cases h
      · rw [node?_apply h same, stands]
  | append path bytes =>
      obtain ⟨content, reads, written⟩ := Result.bind_eq_ok.mp h
      cases written
      rw [node?_put_of_ne (ne_of_file stands (node?_of_read_eq_ok reads)), stands]
  | rename source target =>
      obtain ⟨content, reads, renamed⟩ := Result.bind_eq_ok.mp h
      have notSource := ne_of_file stands (node?_of_read_eq_ok reads)
      have notTarget : place ≠ target := by
        rintro rfl
        simp [stands] at renamed
      rw [node?_renameFile h notSource notTarget, stands]

theorem directory_perform {steps : List Step}
    (stands : files.node? place = some (.directory isWritable)) :
    (files.perform steps).2.node? place = some (.directory isWritable) := by
  induction steps generalizing files with
  | nil => exact stands
  | cons step rest ih =>
      rw [perform]
      split
      · next applied => exact ih (directory_apply applied stands)
      · exact stands

end Files

namespace Area

variable {area other : Area} {files : Files} {guid : Guid} {entity : Entity} {place : Path}

/-- Neither area lies in the other. -/
structure Apart (area other : Area) : Prop where
  notAround : ¬ area.path <+: other.path
  notInside : ¬ other.path <+: area.path

/-- Neither on the way to the directory of the guid nor inside it. -/
def Outside (area : Area) (guid : Guid) (place : Path) : Prop :=
  ¬ place <+: area.folder guid ∧ ¬ area.folder guid <+: place

theorem Apart.outside (apart : area.Apart other) (inside : area.path <+: place) (guid : Guid) :
    other.Outside guid place := by
  constructor
  · intro onTheWay
    rcases List.prefix_concat_iff.mp (inside.trans onTheWay) with same | around
    · exact apart.notInside (same ▸ List.prefix_append other.path [guid.text])
    · exact apart.notAround around
  · intro below
    rcases List.prefix_or_prefix_of_prefix inside ((List.prefix_append _ _).trans below) with
      around | within
    · exact apart.notAround around
    · exact apart.notInside within

theorem Outside.ne (outside : area.Outside guid place) (name : String) :
    place ≠ area.folder guid ++ [name] := by
  rintro rfl
  exact outside.2 (List.prefix_append _ _)

theorem node?_performAll {steps : Except EngineError (List Files.Step)}
    (untouched : ∀ {list}, steps = .ok list → ∀ step ∈ list, ¬ step.Touches place) :
    (performAll steps files).2.node? place = files.node? place := by
  cases steps with
  | error error => rfl
  | ok list => exact Files.node?_perform (untouched rfl)

theorem untouched_replaceSteps (outside : area.Outside guid place) {name : String}
    {bytes : List UInt8} :
    ∀ step ∈ replaceSteps (area.folder guid) name bytes, ¬ step.Touches place := by
  simp only [replaceSteps, List.forall_mem_cons, Files.Step.Touches, not_or]
  exact ⟨outside.ne _, outside.ne _, ⟨outside.ne _, outside.ne _⟩, by simp⟩

theorem node?_save (outside : area.Outside guid place) :
    (area.save guid entity files).2.node? place = files.node? place := by
  refine node?_performAll fun {list} listed => ?_
  obtain ⟨directory, named, listed⟩ := Result.bind_eq_ok.mp listed
  cases eq_folder_of_directory named
  cases listed
  simp only [List.forall_mem_append, List.forall_mem_cons, Files.Step.Touches]
  exact ⟨⟨⟨outside.1, outside.ne _, by simp⟩, untouched_replaceSteps outside⟩, outside.ne _,
    by simp⟩

theorem node?_stage (outside : area.Outside guid place) :
    (area.stage guid entity files).2.node? place = files.node? place := by
  change (performAll (area.stageSteps guid entity) files).2.node? place = _
  refine node?_performAll fun {list} listed => ?_
  obtain ⟨directory, named, listed⟩ := Result.bind_eq_ok.mp listed
  cases eq_folder_of_directory named
  cases listed
  rw [List.forall_mem_cons]
  exact ⟨outside.1, untouched_replaceSteps outside⟩

/-- At every place on the way to the area and inside it stands what stood there. -/
def Spared (area : Area) (files changed : Files) : Prop :=
  ∀ place, place <+: area.path ∨ area.path <+: place → changed.node? place = files.node? place

namespace Spared

variable {changed last : Files}

theorem refl (files : Files) : area.Spared files files := fun _ _ => rfl

theorem trans (first : area.Spared files changed) (second : area.Spared changed last) :
    area.Spared files last :=
  fun place along => (second place along).trans (first place along)

theorem isOpen (h : area.Spared files changed) (isOpen : files.IsOpen area.path) :
    changed.IsOpen area.path := by
  refine ⟨fun place onTheWay => ?_, (h _ (.inl (List.prefix_refl _))).trans isOpen.writable⟩
  rw [← isOpen.above place onTheWay, Files.isDirectory, Files.isDirectory]
  obtain ⟨count, _, rfl⟩ := List.mem_map.mp onTheWay
  rw [h _ (.inl (List.take_prefix count area.path))]

theorem shows {stored : Memory} (h : area.Spared files changed)
    (shows : area.Shows files stored) : area.Shows changed stored :=
  ⟨h.isOpen shows.isOpen, fun name rest =>
    (h _ (.inr (List.prefix_append _ _))).trans (shows.below name rest)⟩

end Spared

theorem exists_directory_of_isOpen (isOpen : files.IsOpen area.path)
    (onTheWay : place <+: area.path) :
    ∃ isWritable, files.node? place = some (.directory isWritable) := by
  by_cases last : place = area.path
  · exact ⟨true, last ▸ isOpen.writable⟩
  · have short : place.length < area.path.length := by
      refine lt_of_le_of_ne onTheWay.length_le fun same => last (onTheWay.eq_of_length same)
    have isAbove : place ∈ area.path.above := List.mem_map.mpr
      ⟨place.length, List.mem_range.mpr short, (List.prefix_iff_eq_take.mp onTheWay).symm⟩
    have stands := isOpen.above place isAbove
    unfold Files.isDirectory at stands
    split at stands
    · next isWritable found => exact ⟨isWritable, found⟩
    · cases stands

/-- What is staged in another area spares this one, even where the ways to both are the same. -/
theorem spared_stage (apart : area.Apart other) (isOpen : files.IsOpen area.path) :
    area.Spared files (other.stage guid entity files).2 := by
  rintro place (onTheWay | inside)
  · obtain ⟨isWritable, stands⟩ := exists_directory_of_isOpen isOpen onTheWay
    rw [stands]
    change (performAll (other.stageSteps guid entity) files).2.node? place = _
    unfold performAll
    split
    · exact stands
    · exact Files.directory_perform stands
  · exact node?_stage (apart.outside inside guid)

theorem text_of_stage {staged : Staged} (h : (area.stage guid entity files).1 = .ok staged) :
    staged.text = entity.json := by
  simp only [stage] at h
  cases performed : (performAll (area.stageSteps guid entity) files).1 with
  | error error =>
      rw [performed] at h
      cases h
  | ok _ =>
      rw [performed] at h
      cases h
      rfl

end Area
end GraphEngine
