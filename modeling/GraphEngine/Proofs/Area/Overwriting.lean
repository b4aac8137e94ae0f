import GraphEngine.Proofs.Area.Interruption
import GraphEngine.Proofs.Files.Siblings

/-!
A save over what an earlier one of the same guid has left.

Wherever the earlier one has stopped, the later one ends as it would have ended without it, and
leaves the same files. It is enough to see this where the content is replaced: the folder and the
marker are for the later save as the earlier one has found or made them.
-/
namespace GraphEngine

namespace Files

variable {files changed : Files} {directory path : Path} {name : String} {node own : Node}

theorem put_put_self : (files.put path node).put path own = files.put path own := by
  simp only [put, Files.mk.injEq, and_true]
  refine Std.ExtTreeMap.ext_getElem? fun {key} => ?_
  simp only [Std.ExtTreeMap.getElem?_insert, Std.compare_eq_iff_eq]
  grind

theorem drop_put_self : (files.put path node).drop path = files.drop path := by
  simp only [put, drop, Files.mk.injEq, and_true]
  refine Std.ExtTreeMap.ext_getElem? fun {key} => ?_
  simp only [Std.ExtTreeMap.getElem?_insert, Std.ExtTreeMap.getElem?_erase,
    Std.compare_eq_iff_eq]
  grind

theorem drop_eq_self (notRoot : path ≠ []) (free : files.node? path = none) :
    files.drop path = files := by
  have missing : files.nodes[path]? = none := by
    rwa [node?, if_neg notRoot] at free
  simp only [drop]
  congr 1
  refine Std.ExtTreeMap.ext_getElem? fun {key} => ?_
  simp only [Std.ExtTreeMap.getElem?_erase, Std.compare_eq_iff_eq]
  grind

theorem eq_put_of_createFile (h : files.createFile path = .ok changed) :
    changed = files.put path (.file .empty) := by
  unfold createFile at h
  split at h
  · cases h
  · cases h
    rfl
  · obtain ⟨_, _, created⟩ := Result.bind_eq_ok.mp h
    cases created
    rfl

/-- Once a file has been created, it can be created again. -/
theorem createFile_put {content : Content} (notRoot : path ≠ []) :
    (files.put path (.file content)).createFile path = .ok (files.put path (.file .empty)) := by
  have stands : (files.put path (.file content)).node? path = some (.file content) := by
    rw [node?_put notRoot, if_pos rfl]
  simp only [createFile, stands, put_put_self]

/-- Names can be changed in a directory that is writable, and in no other place. -/
theorem changeNames_eq_ok : files.changeNames (directory ++ [name]) = .ok () ↔
    files.node? directory = some (.directory true) := by
  rw [changeNames, List.dropLast_concat, find]
  rcases files.node? directory with _ | (_ | _) | content <;> simp

/-- Where the way to a directory stands, making it changes nothing. -/
theorem makeDirectories_eq_self
    (stand : ∀ place ∈ path.above ++ [path], files.isDirectory place = true) :
    files.makeDirectories path = .ok files := by
  have free : path.above.any files.isFile = false := by
    rw [List.any_eq_false]
    exact fun place onTheWay => Bool.eq_false_iff.mp
      (isFile_of_isDirectory (stand place (List.mem_append_left _ onTheWay)))
  rw [makeDirectories, free, foldlM_ensureDirectory_of_stand stand]
  rfl

theorem isDirectory_of_makeDirectories (h : files.makeDirectories path = .ok changed) :
    ∀ place ∈ path.above ++ [path], changed.isDirectory place = true := by
  unfold makeDirectories at h
  split at h
  · cases h
  · exact isDirectory_of_foldlM h

theorem isDirectory_perform (steps : List Step) (stands : files.isDirectory path = true) :
    (files.perform steps).2.isDirectory path = true := by
  unfold isDirectory at stands
  split at stands
  · next found => exact isDirectory_of_node? (directory_perform found)
  · cases stands

theorem perform_append_eq_goOn (files : Files) (first rest : List Step) :
    files.perform (first ++ rest) = goOn rest (files.perform first).1 (files.perform first).2 := by
  induction first generalizing files with
  | nil => rfl
  | cons step others ih =>
      rw [List.cons_append, perform, perform]
      cases step.apply files with
      | error fault => rfl
      | ok changed => exact ih changed

end Files

namespace Area

open Files (Step)

variable {area : Area} {files changed : Files} {guid : Guid} {entity later : Entity}
  {directory : Path} {name : String} {bytes : List UInt8}

theorem temporary_ne (directory : Path) (name : String) :
    directory ++ [temporaryName name] ≠ directory ++ [name] := by
  intro same
  have long := congrArg String.length (List.singleton_inj.mp (List.append_cancel_left same))
  rw [temporaryName, String.length_append] at long
  have : (".tmp" : String).length = 4 := rfl
  omega

theorem directory_ne (directory : Path) (name : String) : directory ≠ directory ++ [name] := by
  simp

/-- Nothing hinders content from taking its place. -/
structure Replaceable (directory : Path) (name : String) (files : Files) : Prop where
  creates : files.createFile (directory ++ [temporaryName name])
    = .ok (files.put (directory ++ [temporaryName name]) (.file .empty))
  writable : files.node? directory = some (.directory true)
  noDirectory : files.isDirectory (directory ++ [name]) = false

/-- What stands in the end, the temporary file having gone. -/
def replaced (directory : Path) (name : String) (bytes : List UInt8) (files : Files) : Files :=
  (files.drop (directory ++ [temporaryName name])).put (directory ++ [name])
    (.file (.ofBytes bytes))

/-- The files with the whole content at the temporary place. -/
def written (directory : Path) (name : String) (bytes : List UInt8) (files : Files) : Files :=
  files.put (directory ++ [temporaryName name]) (.file (.ofBytes bytes))

theorem rename_written :
    Step.apply (written directory name bytes files)
        (.rename (directory ++ [temporaryName name]) (directory ++ [name])) = .ok changed ↔
      files.node? directory = some (.directory true) ∧
        files.isDirectory (directory ++ [name]) = false ∧
        changed = replaced directory name bytes files := by
  have stands : (written directory name bytes files).node? (directory ++ [temporaryName name])
      = some (.file (.ofBytes bytes)) := by
    rw [written, Files.node?_put (by simp), if_pos rfl]
  have target : (written directory name bytes files).node? (directory ++ [name])
      = files.node? (directory ++ [name]) :=
    Files.node?_put_of_ne (temporary_ne directory name).symm
  have around : (written directory name bytes files).node? directory = files.node? directory :=
    Files.node?_put_of_ne (directory_ne directory _)
  have moved : ((written directory name bytes files).drop (directory ++ [temporaryName name])).put
      (directory ++ [name]) (.file (.ofBytes bytes)) = replaced directory name bytes files := by
    rw [written, Files.drop_put_self, replaced]
  have reads : (written directory name bytes files).read (directory ++ [temporaryName name])
      = .ok (.ofBytes bytes) := by
    simp only [Files.read, Files.find, stands]
  have goes : (written directory name bytes files).changeNames (directory ++ [name]) = .ok () ↔ _ :=
    Files.changeNames_eq_ok
  rw [← around, ← goes, Files.isDirectory, ← target]
  simp only [Step.apply, Files.renameFile, reads, bind, Except.bind, moved]
  cases (written directory name bytes files).changeNames (directory ++ [name]) <;>
    rcases (written directory name bytes files).node? (directory ++ [name]) with
      _ | isWritable | content <;>
    simp [pure, Except.pure, eq_comm]

theorem perform_replaceSteps_of_createFile
    (creates : files.createFile (directory ++ [temporaryName name])
      = .ok (files.put (directory ++ [temporaryName name]) (.file .empty))) :
    files.perform (replaceSteps directory name bytes)
      = (written directory name bytes files).perform
          [.rename (directory ++ [temporaryName name]) (directory ++ [name])] := by
  have stands : (files.put (directory ++ [temporaryName name]) (.file .empty)).node?
      (directory ++ [temporaryName name]) = some (.file .empty) := by
    rw [Files.node?_put (by simp), if_pos rfl]
  have appends : Step.apply (files.put (directory ++ [temporaryName name]) (.file .empty))
      (.append (directory ++ [temporaryName name]) bytes)
        = .ok (written directory name bytes files) := by
    simp only [Step.apply, Files.appendBytes, Files.read, Files.find, stands, bind, Except.bind,
      pure, Except.pure, Files.put_put_self, written]
    rfl
  rw [replaceSteps, Files.perform_cons (show Step.apply files (.createFile _) = _ from creates),
    Files.perform_cons appends]

theorem Replaceable.perform (h : Replaceable directory name files) :
    files.perform (replaceSteps directory name bytes)
      = (.ok (), replaced directory name bytes files) := by
  rw [perform_replaceSteps_of_createFile h.creates, Files.perform_cons
    (rename_written.mpr ⟨h.writable, h.noDirectory, rfl⟩)]
  rfl

/-- Where content has taken its place, other content can. -/
theorem Replaceable.again (h : Replaceable directory name files) :
    Replaceable directory name (replaced directory name bytes files) where
  creates := by
    have free : (replaced directory name bytes files).node? (directory ++ [temporaryName name])
        = none := by
      rw [replaced, Files.node?_put_of_ne (temporary_ne directory name),
        Files.node?_drop (by simp), if_pos rfl]
    have goes : (replaced directory name bytes files).changeNames
        (directory ++ [temporaryName name]) = .ok () := Files.changeNames_eq_ok.mpr (by
      rw [replaced, Files.node?_put_of_ne (directory_ne directory name),
        Files.node?_drop_of_ne (directory_ne directory _), h.writable])
    simp only [Files.createFile, free, goes, bind, Except.bind, pure, Except.pure]
  writable := by
    rw [replaced, Files.node?_put_of_ne (directory_ne directory name),
      Files.node?_drop_of_ne (directory_ne directory _), h.writable]
  noDirectory := by
    rw [replaced, Files.isDirectory, Files.node?_put (by simp), if_pos rfl]

theorem replaced_replaced {others : List UInt8} :
    replaced directory name others (replaced directory name bytes files)
      = replaced directory name others files := by
  have gone : (files.drop (directory ++ [temporaryName name])).drop
      (directory ++ [temporaryName name]) = files.drop (directory ++ [temporaryName name]) :=
    Files.drop_eq_self (by simp) (by rw [Files.node?_drop (by simp), if_pos rfl])
  rw [replaced, replaced, Files.drop_put_of_ne (temporary_ne directory name).symm, gone,
    Files.put_put_self, replaced]

/-- How far replacing the content has come. -/
theorem replaceSteps_cases (files : Files) (directory : Path) (name : String)
    (bytes : List UInt8) :
    (files.perform (replaceSteps directory name bytes)).2 = files ∨
      files.createFile (directory ++ [temporaryName name])
          = .ok (files.put (directory ++ [temporaryName name]) (.file .empty)) ∧
        (files.perform (replaceSteps directory name bytes)).2 = written directory name bytes files ∨
      Replaceable directory name files := by
  cases creates : files.createFile (directory ++ [temporaryName name]) with
  | error fault =>
      left
      have fails : Step.apply files (.createFile (directory ++ [temporaryName name]))
          = .error fault := creates
      rw [replaceSteps, Files.perform, fails]
  | ok created =>
      cases Files.eq_put_of_createFile creates
      right
      rw [perform_replaceSteps_of_createFile creates, Files.perform]
      split
      · next renamed renames =>
          obtain ⟨writable, noDirectory, _⟩ := rename_written.mp renames
          exact .inr ⟨creates, writable, noDirectory⟩
      · exact .inl ⟨rfl, rfl⟩

/-- Content that replaces other content does so as if the other had never been there. -/
theorem perform_replaceSteps_again (files : Files) (directory : Path) (name : String)
    (bytes others : List UInt8) :
    (files.perform (replaceSteps directory name bytes)).2.perform
        (replaceSteps directory name others)
      = files.perform (replaceSteps directory name others) := by
  rcases replaceSteps_cases files directory name bytes with same | ⟨creates, left⟩ | replaceable
  · rw [same]
  · have again : (written directory name bytes files).createFile
        (directory ++ [temporaryName name])
          = .ok ((written directory name bytes files).put (directory ++ [temporaryName name])
              (.file .empty)) := by
      rw [written, Files.createFile_put (by simp), Files.put_put_self]
    rw [left, perform_replaceSteps_of_createFile creates, perform_replaceSteps_of_createFile again,
      written, written, Files.put_put_self, written]
  · rw [replaceable.perform, replaceable.again.perform, replaceable.perform, replaced_replaced]

/-- The folder stands and the marker does not, as it is before the content is touched. -/
structure Awaiting (area : Area) (guid : Guid) (files : Files) : Prop where
  stands : ∀ place ∈ (area.folder guid).above ++ [area.folder guid],
    files.isDirectory place = true
  unmarked : files.node? (area.folder guid ++ [markerName]) = none

namespace Awaiting

theorem of_clear {made : Files} (makes : files.makeDirectories (area.folder guid) = .ok made)
    (clears : Step.apply made (.clear (area.folder guid ++ [markerName])) = .ok changed) :
    area.Awaiting guid changed where
  stands place onTheWay := by
    have kept := Files.isDirectory_perform [.clear (area.folder guid ++ [markerName])]
      (Files.isDirectory_of_makeDirectories makes place onTheWay)
    rwa [Files.perform_cons clears] at kept
  unmarked := Files.node?_of_clear (Files.isDirectory_makeDirectories makes) clears

theorem replace (h : area.Awaiting guid files) (entity : Entity) :
    area.Awaiting guid (files.perform (area.unmarkedSteps guid entity)).2 where
  stands place onTheWay := Files.isDirectory_perform _ (h.stands place onTheWay)
  unmarked := by
    rw [Files.node?_perform fun step listed =>
      untouched_unmarkedSteps listed (.whole step) (List.prefix_refl _), h.unmarked]

/-- Nothing is left to do before the content. -/
theorem begins (h : area.Awaiting guid files) (rest : List Step) :
    files.perform (.makeDirectories (area.folder guid) ::
        .clear (area.folder guid ++ [markerName]) :: rest) = files.perform rest := by
  have makes : Step.apply files (.makeDirectories (area.folder guid)) = .ok files :=
    Files.makeDirectories_eq_self h.stands
  have clears : Step.apply files (.clear (area.folder guid ++ [markerName])) = .ok files := by
    have missing : files.find (area.folder guid ++ [markerName]) = .error .notFound := by
      rw [Files.find, h.unmarked, Files.absence_eq_notFound fun place onTheWay => ?_]
      rw [Path.above_append] at onTheWay
      exact Files.isFile_of_isDirectory (h.stands place onTheWay)
    simp only [Step.apply, Files.removeFile, missing]
  rw [Files.perform_cons makes, Files.perform_cons clears]

/-- A marker that has been set is cleared again. -/
theorem begins_marked (h : area.Awaiting guid files)
    (marks : Step.apply files (.createFile (area.folder guid ++ [markerName])) = .ok changed)
    (rest : List Step) :
    changed.perform (.makeDirectories (area.folder guid) ::
        .clear (area.folder guid ++ [markerName]) :: rest) = files.perform rest := by
  have goes : files.changeNames (area.folder guid ++ [markerName]) = .ok () := by
    simp only [Step.apply, Files.createFile, h.unmarked] at marks
    obtain ⟨_, goes, _⟩ := Result.bind_eq_ok.mp marks
    exact goes
  have writable := Files.changeNames_eq_ok.mp goes
  have stands : ∀ place ∈ (area.folder guid).above ++ [area.folder guid],
      changed.isDirectory place = true := by
    intro place onTheWay
    have kept := Files.isDirectory_perform [.createFile (area.folder guid ++ [markerName])]
      (h.stands place onTheWay)
    rwa [Files.perform_cons marks] at kept
  have makes : Step.apply changed (.makeDirectories (area.folder guid)) = .ok changed :=
    Files.makeDirectories_eq_self stands
  have clears : Step.apply changed (.clear (area.folder guid ++ [markerName])) = .ok files := by
    have marker := Files.node?_of_createFile (by simp) marks
    have stillGoes : changed.changeNames (area.folder guid ++ [markerName]) = .ok () :=
      Files.changeNames_eq_ok.mpr (Files.directory_apply marks writable)
    have gone : changed.drop (area.folder guid ++ [markerName]) = files := by
      rw [Files.eq_put_of_createFile marks, Files.drop_put_self,
        Files.drop_eq_self (by simp) h.unmarked]
    simp only [Step.apply, Files.removeFile, Files.find, marker, stillGoes, bind, Except.bind,
      gone, pure, Except.pure]
  rw [Files.perform_cons makes, Files.perform_cons clears]

end Awaiting

/-- The steps of a save under a guid that has a folder. -/
def steps (area : Area) (guid : Guid) (entity : Entity) : List Step :=
  .makeDirectories (area.folder guid) :: .clear (area.folder guid ++ [markerName]) ::
    (area.unmarkedSteps guid entity ++ [.createFile (area.folder guid ++ [markerName])])

theorem Awaiting.perform_again (h : area.Awaiting guid files) (entity later : Entity) :
    (files.perform (area.unmarkedSteps guid entity
        ++ [.createFile (area.folder guid ++ [markerName])])).2.perform (area.steps guid later)
      = files.perform (area.unmarkedSteps guid later
          ++ [.createFile (area.folder guid ++ [markerName])]) := by
  have once : files.perform (area.unmarkedSteps guid later
        ++ [.createFile (area.folder guid ++ [markerName])])
      = (files.perform (area.unmarkedSteps guid entity)).2.perform
          (area.unmarkedSteps guid later
            ++ [.createFile (area.folder guid ++ [markerName])]) := by
    rw [Files.perform_append_eq_goOn, Files.perform_append_eq_goOn]
    simp only [unmarkedSteps, perform_replaceSteps_again]
  have replaced := h.replace entity
  rw [once, Files.perform_append_eq_goOn, steps]
  cases (files.perform (area.unmarkedSteps guid entity)).1 with
  | error fault => exact replaced.begins _
  | ok _ =>
      cases marks : Step.apply (files.perform (area.unmarkedSteps guid entity)).2
          (.createFile (area.folder guid ++ [markerName])) with
      | ok marked =>
          rw [Files.goOn, Files.perform_cons marks]
          exact replaced.begins_marked marks _
      | error fault =>
          have unchanged : ((files.perform (area.unmarkedSteps guid entity)).2.perform
              [.createFile (area.folder guid ++ [markerName])]).2
                = (files.perform (area.unmarkedSteps guid entity)).2 :=
            Step.effect_of_error marks
          rw [Files.goOn, unchanged]
          exact replaced.begins _

theorem perform_steps_again (files : Files) (guid : Guid) (entity later : Entity) :
    (files.perform (area.steps guid entity)).2.perform (area.steps guid later)
      = files.perform (area.steps guid later) := by
  rw [steps, Files.perform]
  split
  · next made makes =>
      have stands : Step.apply made (.makeDirectories (area.folder guid)) = .ok made :=
        Files.makeDirectories_eq_self (Files.isDirectory_of_makeDirectories makes)
      rw [Files.perform]
      split
      · next cleared clears =>
          rw [(Awaiting.of_clear makes clears).perform_again, steps, Files.perform_cons makes,
            Files.perform_cons clears]
      · rw [steps, Files.perform_cons stands, Files.perform_cons makes]
  · rfl

/-- A save answers as if the guid had not been saved before, and leaves the same files. -/
theorem save_again (area : Area) (guid : Guid) (entity later : Entity) (files : Files) :
    area.save guid later (area.save guid entity files).2 = area.save guid later files := by
  cases safe : guid.isSafe with
  | false => simp only [save_of_not_isSafe safe]
  | true =>
      have listed (entity : Entity) : area.saveSteps guid entity = .ok (area.steps guid entity) :=
        saveSteps_of_isSafe safe
      simp only [save, listed, performAll, perform_steps_again]

end Area
end GraphEngine
