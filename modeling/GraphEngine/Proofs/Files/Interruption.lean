import GraphEngine.Proofs.Area.Frame

/-!
What is left of a protocol that does not come to its end.

An interruption falls between two steps or into the middle of one. A step that fails is a special
case, since it leaves what the steps before it have done.
-/
namespace GraphEngine.Files

variable {files changed left : Files} {path place : Path} {name : String} {content : Content}

theorem node?_of_createFile (notRoot : path ≠ [])
    (h : Step.apply files (.createFile path) = .ok changed) :
    changed.node? path = some (.file .empty) := by
  simp only [Step.apply, createFile] at h
  split at h
  · cases h
  · cases h
    rw [node?_put notRoot, if_pos rfl]
  · obtain ⟨_, _, created⟩ := Result.bind_eq_ok.mp h
    cases created
    rw [node?_put notRoot, if_pos rfl]

theorem node?_of_append {bytes : List UInt8} (notRoot : path ≠ [])
    (found : files.node? path = some (.file content))
    (h : Step.apply files (.append path bytes) = .ok changed) :
    changed.node? path = some (.file (content.append bytes)) := by
  obtain ⟨_, applies, update⟩ := append_of_node? bytes notRoot found
  cases applies.symm.trans h
  rw [update.node?, getD_lookup_cons, if_pos rfl]

theorem node?_of_rename {source target : Path} (notRoot : target ≠ [])
    (found : files.node? source = some (.file content))
    (h : Step.apply files (.rename source target) = .ok changed) :
    changed.node? target = some (.file content) := by
  simp only [Step.apply, renameFile, read, find, found] at h
  obtain ⟨_, reads, h⟩ := Result.bind_eq_ok.mp h
  cases reads
  split at h
  · cases h
  · obtain ⟨_, _, renamed⟩ := Result.bind_eq_ok.mp h
    cases renamed
    rw [node?_put notRoot, if_pos rfl]

/-- Where the directory around it stands, a file that is cleared has gone. -/
theorem node?_of_clear (around : files.isDirectory path = true)
    (h : Step.apply files (.clear (path ++ [name])) = .ok changed) :
    changed.node? (path ++ [name]) = none := by
  simp only [Step.apply] at h
  split at h
  · next fails =>
      cases h
      unfold removeFile at fails
      cases found : files.node? (path ++ [name]) with
      | none => rfl
      | some node =>
          -- Were there something, only a missing directory could make the removal find nothing.
          unfold isDirectory at around
          simp only [find, found] at fails
          split at fails
          · simp only [changeNames, List.dropLast_concat, find] at fails
            split at around
            · next isWritable stands =>
                rw [stands] at fails
                cases isWritable <;> cases fails
            · cases around
          · cases fails
          · next missing => cases missing
  · simp only [removeFile] at h
    split at h
    · obtain ⟨_, _, removed⟩ := Result.bind_eq_ok.mp h
      cases removed
      rw [node?_drop (by simp), if_pos rfl]
    · cases h
    · cases h

theorem isFile_ensureDirectory (h : files.ensureDirectory path = .ok changed)
    (noFile : files.isFile place = false) : changed.isFile place = false := by
  by_cases elsewhere : place = path
  · subst elsewhere
    unfold ensureDirectory at h
    split at h
    · cases h
      exact noFile
    · cases h
    · obtain ⟨_, _, made⟩ := Result.bind_eq_ok.mp h
      cases made
      by_cases root : place = []
      · simp [isFile, node?, root]
      · simp [isFile, node?_put root]
  · rw [isFile, node?_ensureDirectory h elsewhere]
    exact noFile

theorem isFile_makeDirectories (h : files.makeDirectories path = .ok changed)
    (noFile : files.isFile place = false) : changed.isFile place = false := by
  unfold makeDirectories at h
  split at h
  · cases h
  · exact Result.foldlM_induction (P := fun made => made.isFile place = false)
      (fun _ free ensured => isFile_ensureDirectory ensured free) noFile h

theorem isDirectory_ensureDirectory (h : files.ensureDirectory path = .ok changed) :
    changed.isDirectory path = true := by
  unfold ensureDirectory at h
  split at h
  · next stands =>
      cases h
      exact isDirectory_of_node? stands
  · cases h
  · next free =>
      obtain ⟨_, _, made⟩ := Result.bind_eq_ok.mp h
      cases made
      have notRoot : path ≠ [] := by
        rintro rfl
        simp [node?] at free
      rw [isDirectory, node?_put notRoot, if_pos rfl]

theorem isDirectory_makeDirectories (h : files.makeDirectories path = .ok changed) :
    changed.isDirectory path = true := by
  unfold makeDirectories at h
  split at h
  · cases h
  · rw [List.foldlM_append] at h
    obtain ⟨between, _, last⟩ := Result.bind_eq_ok.mp h
    rw [List.foldlM_cons] at last
    obtain ⟨_, ensured, returned⟩ := Result.bind_eq_ok.mp last
    cases returned
    exact isDirectory_ensureDirectory ensured

theorem isFile_above_of_makeDirectories (h : files.makeDirectories path = .ok changed) :
    ∀ place ∈ (path ++ [name]).above, changed.isFile place = false := by
  intro place onTheWay
  rw [Path.above_append, List.mem_append, List.mem_singleton] at onTheWay
  rcases onTheWay with onTheWay | rfl
  · refine isFile_makeDirectories h ?_
    unfold makeDirectories at h
    split at h
    · cases h
    · next free => exact Bool.eq_false_iff.mpr fun stands => free (List.any_of_mem onTheWay stands)
  · exact isFile_of_isDirectory (isDirectory_makeDirectories h)

/-- What may have been done of a step when it is interrupted: directories are made one after
another, and bytes are written from the first on. -/
inductive Step.IsPart : Step → Step → Prop where
  | whole (step : Step) : IsPart step step
  | directories {place path : Path} (onTheWay : place ∈ path.above) :
      IsPart (.makeDirectories place) (.makeDirectories path)
  | bytes {path : Path} {part bytes : List UInt8} (first : part <+: bytes) :
      IsPart (.append path part) (.append path bytes)

/-- The files that an interruption of the steps may leave. -/
inductive Leaves : Files → List Step → Files → Prop where
  | stopped {files : Files} {steps : List Step} : Leaves files steps files
  | inside {files left : Files} {part step : Step} {rest : List Step} (isPart : part.IsPart step)
      (applied : part.apply files = .ok left) : Leaves files (step :: rest) left
  | step {files changed left : Files} {step : Step} {rest : List Step}
      (applied : step.apply files = .ok changed) (later : Leaves changed rest left) :
      Leaves files (step :: rest) left

/-- Whether or not a step fails, performing leaves what an interruption may leave. -/
theorem leaves_perform (files : Files) (steps : List Step) :
    Leaves files steps (files.perform steps).2 := by
  induction steps generalizing files with
  | nil => exact .stopped
  | cons step rest ih =>
      rw [perform]
      split
      · next applied => exact .step applied (ih _)
      · exact .stopped

theorem leaves_of_perform {steps : List Step} {result : Except SystemFault Unit}
    (h : files.perform steps = (result, left)) : Leaves files steps left := by
  have leaves := leaves_perform files steps
  rwa [h] at leaves

theorem perform_cons_eq_ok {step : Step} {rest : List Step} :
    files.perform (step :: rest) = (.ok (), changed) ↔
      ∃ between, step.apply files = .ok between ∧ between.perform rest = (.ok (), changed) := by
  rw [perform]
  split
  · next applied => simp [applied]
  · next failed => simp [failed]

theorem perform_append_eq_ok {first rest : List Step} :
    files.perform (first ++ rest) = (.ok (), changed) ↔
      ∃ between, files.perform first = (.ok (), between) ∧
        between.perform rest = (.ok (), changed) := by
  induction first generalizing files with
  | nil => simp [perform]
  | cons step others ih =>
      rw [List.cons_append, perform_cons_eq_ok]
      constructor
      · rintro ⟨next, applied, performed⟩
        obtain ⟨between, before, after⟩ := ih.mp performed
        exact ⟨between, perform_cons_eq_ok.mpr ⟨next, applied, before⟩, after⟩
      · rintro ⟨between, before, after⟩
        obtain ⟨next, applied, performed⟩ := perform_cons_eq_ok.mp before
        exact ⟨next, applied, ih.mpr ⟨between, performed, after⟩⟩

namespace Leaves

variable {first rest : List Step}

theorem nil (h : Leaves files [] left) : left = files := by
  cases h
  rfl

/-- The interruption falls into the first steps, or these have all been done. -/
theorem append (h : Leaves files (first ++ rest) left) :
    Leaves files first left ∨
      ∃ between, files.perform first = (.ok (), between) ∧ Leaves between rest left := by
  induction first generalizing files with
  | nil => exact .inr ⟨files, rfl, h⟩
  | cons step others ih =>
      cases h with
      | stopped => exact .inl .stopped
      | inside isPart applied => exact .inl (.inside isPart applied)
      | step applied later =>
          rcases ih later with within | ⟨between, performed, after⟩
          · exact .inl (.step applied within)
          · exact .inr ⟨between, perform_cons_eq_ok.mpr ⟨_, applied, performed⟩, after⟩

/-- What every part of every step preserves is true of what an interruption leaves. -/
theorem invariant {P : Files → Prop} {steps : List Step} (begins : P files)
    (preserved : ∀ {step part : Step} {files changed : Files}, step ∈ steps → part.IsPart step →
      P files → part.apply files = .ok changed → P changed)
    (h : Leaves files steps left) : P left := by
  induction h with
  | stopped => exact begins
  | inside isPart applied => exact preserved List.mem_cons_self isPart begins applied
  | step applied _ ih =>
      exact ih (preserved List.mem_cons_self (.whole _) begins applied)
        fun inRest => preserved (List.mem_cons_of_mem _ inRest)

end Leaves
end GraphEngine.Files
