import GraphEngine.Proofs.Files.Interruption

/-!
Changes that the work in a directory does not notice.

Steps in a directory look at what has a name in it, and otherwise only at whether a file stands on
the way. Making it looks at the way alone. A change that keeps clear of what they look at and what
they write comes to the same before and after them.
-/
namespace GraphEngine.Files

variable {files changed : Files} {around directory place path : Path} {name : String}
  {node : Node} {step : Step} {change : Files → Files}

theorem put_put_of_ne {own : Node} (h : place ≠ path) :
    (files.put place node).put path own = (files.put path own).put place node := by
  simp only [put, Files.mk.injEq, and_true]
  refine Std.ExtTreeMap.ext_getElem? fun {key} => ?_
  simp only [Std.ExtTreeMap.getElem?_insert, Std.compare_eq_iff_eq]
  grind

theorem drop_put_of_ne (h : place ≠ path) :
    (files.put place node).drop path = (files.drop path).put place node := by
  simp only [put, drop, Files.mk.injEq, and_true]
  refine Std.ExtTreeMap.ext_getElem? fun {key} => ?_
  simp only [Std.ExtTreeMap.getElem?_insert, Std.ExtTreeMap.getElem?_erase,
    Std.compare_eq_iff_eq]
  grind

theorem drop_drop_comm : (files.drop place).drop path = (files.drop path).drop place := by
  simp only [drop, Files.mk.injEq, and_true]
  refine Std.ExtTreeMap.ext_getElem? fun {key} => ?_
  simp only [Std.ExtTreeMap.getElem?_erase, Std.compare_eq_iff_eq]
  grind

namespace Step

/-- The steps that change what has a name in the directory. -/
inductive Inside (directory : Path) : Step → Prop where
  | clear (name : String) : Inside directory (.clear (directory ++ [name]))
  | createFile (name : String) : Inside directory (.createFile (directory ++ [name]))
  | append (name : String) (bytes : List UInt8) :
      Inside directory (.append (directory ++ [name]) bytes)
  | rename (source target : String) :
      Inside directory (.rename (directory ++ [source]) (directory ++ [target]))

inductive Serves (directory : Path) : Step → Prop where
  | makeDirectories : Serves directory (.makeDirectories directory)
  | inside {step : Step} (h : step.Inside directory) : Serves directory step

/-- The files after the step, which are as they were if it fails. -/
def effect (step : Step) (files : Files) : Files := (files.perform [step]).2

theorem effect_of_ok (h : step.apply files = .ok changed) : step.effect files = changed := by
  simp [effect, perform, h]

theorem effect_of_error {fault : SystemFault} (h : step.apply files = .error fault) :
    step.effect files = files := by
  simp [effect, perform, h]

end Step

theorem absence_congr (h : ∀ place ∈ path.above, changed.isFile place = files.isFile place) :
    changed.absence path = files.absence path := by
  have same : path.above.any changed.isFile = path.above.any files.isFile := by
    rw [Bool.eq_iff_iff, List.any_eq_true, List.any_eq_true]
    refine exists_congr fun place => and_congr_right fun onTheWay => ?_
    rw [h place onTheWay]
  rw [absence, absence, same]

/-- A change that steps inside the directory neither notice nor undo. -/
structure Spares (directory : Path) (change : Files → Files) : Prop where
  isFile : ∀ files, ∀ place ∈ directory.above,
    (change files).isFile place = files.isFile place
  node? : ∀ files place, directory <+: place → (change files).node? place = files.node? place
  put : ∀ files name node, change (files.put (directory ++ [name]) node)
    = (change files).put (directory ++ [name]) node
  drop : ∀ files name, change (files.drop (directory ++ [name]))
    = (change files).drop (directory ++ [name])

namespace Spares

theorem isFile_above (h : Spares directory change) (files : Files) (name : String) :
    ∀ place ∈ (directory ++ [name]).above,
      (change files).isFile place = files.isFile place := by
  intro place onTheWay
  rw [Path.above_append, List.mem_append, List.mem_singleton] at onTheWay
  rcases onTheWay with onTheWay | rfl
  · exact h.isFile files place onTheWay
  · rw [Files.isFile, Files.isFile, h.node? files _ (List.prefix_refl _)]

theorem find (h : Spares directory change) (files : Files) (name : String) :
    (change files).find (directory ++ [name]) = files.find (directory ++ [name]) := by
  rw [Files.find, Files.find, h.node? files _ (List.prefix_append _ _),
    absence_congr (h.isFile_above files name)]

theorem changeNames (h : Spares directory change) (files : Files) (name : String) :
    (change files).changeNames (directory ++ [name]) = files.changeNames (directory ++ [name]) := by
  rw [Files.changeNames, Files.changeNames, List.dropLast_concat, Files.find, Files.find,
    h.node? files _ (List.prefix_refl _), absence_congr (h.isFile files)]

theorem createFile (h : Spares directory change) (files : Files) (name : String) :
    (change files).createFile (directory ++ [name])
      = (files.createFile (directory ++ [name])).map change := by
  unfold Files.createFile
  rw [h.node? files _ (List.prefix_append _ _), h.changeNames]
  cases files.node? (directory ++ [name]) with
  | none =>
      cases files.changeNames (directory ++ [name]) with
      | error fault => rfl
      | ok _ => exact congrArg Except.ok (h.put files name _).symm
  | some node =>
      cases node with
      | directory isWritable => rfl
      | file content => exact congrArg Except.ok (h.put files name _).symm

theorem removeFile (h : Spares directory change) (files : Files) (name : String) :
    (change files).removeFile (directory ++ [name])
      = (files.removeFile (directory ++ [name])).map change := by
  unfold Files.removeFile
  rw [h.find, h.changeNames]
  cases files.find (directory ++ [name]) with
  | error fault => rfl
  | ok node =>
      cases node with
      | directory isWritable => rfl
      | file content =>
          cases files.changeNames (directory ++ [name]) with
          | error fault => rfl
          | ok _ => exact congrArg Except.ok (h.drop files name).symm

theorem read (h : Spares directory change) (files : Files) (name : String) :
    (change files).read (directory ++ [name]) = files.read (directory ++ [name]) := by
  rw [Files.read, Files.read, h.find]

theorem renameFile (h : Spares directory change) (files : Files) (source target : String) :
    (change files).renameFile (directory ++ [source]) (directory ++ [target])
      = (files.renameFile (directory ++ [source]) (directory ++ [target])).map change := by
  unfold Files.renameFile
  rw [h.read, h.changeNames, h.node? files _ (List.prefix_append _ _)]
  cases files.read (directory ++ [source]) with
  | error fault => rfl
  | ok content =>
      have moved : ((change files).drop (directory ++ [source])).put (directory ++ [target])
          (.file content) = change ((files.drop (directory ++ [source])).put
            (directory ++ [target]) (.file content)) := by
        rw [h.put, h.drop]
      simp only [bind, Except.bind, moved]
      rcases files.node? (directory ++ [target]) with _ | isWritable | content
      all_goals cases files.changeNames (directory ++ [target]) <;> rfl

/-- A step inside the directory comes to the same before and after the change. -/
theorem apply (h : Spares directory change) (inside : step.Inside directory) (files : Files) :
    step.apply (change files) = (step.apply files).map change := by
  cases inside with
  | clear name =>
      simp only [Step.apply, h.removeFile]
      cases files.removeFile (directory ++ [name]) with
      | ok changed => rfl
      | error fault => cases fault <;> rfl
  | createFile name => exact h.createFile files name
  | append name bytes =>
      simp only [Step.apply, appendBytes, h.read]
      cases files.read (directory ++ [name]) with
      | error fault => rfl
      | ok content => exact congrArg Except.ok (h.put files name _).symm
  | rename source target => exact h.renameFile files source target

end Spares

theorem Step.effect_of_apply (change : Files → Files)
    (h : step.apply (change files) = (step.apply files).map change) :
    step.effect (change files) = change (step.effect files) := by
  cases applied : step.apply files with
  | ok changed =>
      rw [applied] at h
      rw [effect_of_ok applied, effect_of_ok h]
  | error fault =>
      rw [applied] at h
      rw [effect_of_error applied, effect_of_error h]

theorem ensureDirectory_of_node? (change : Files → Files)
    (same : ∀ place, place <+: path → (change files).node? place = files.node? place)
    (commutes : change (files.put path (.directory true))
      = (change files).put path (.directory true)) :
    (change files).ensureDirectory path = (files.ensureDirectory path).map change := by
  have sameFile : ∀ place ∈ Path.above path.dropLast,
      (change files).isFile place = files.isFile place := by
    intro place onTheWay
    obtain ⟨count, _, rfl⟩ := List.mem_map.mp onTheWay
    rw [isFile, isFile, same _ ((List.take_prefix _ _).trans (List.dropLast_prefix path))]
  have sameNames : (change files).changeNames path = files.changeNames path := by
    rw [changeNames, changeNames, find, find, same _ (List.dropLast_prefix path),
      absence_congr sameFile]
  unfold ensureDirectory
  rw [same path (List.prefix_refl path), sameNames]
  rcases files.node? path with _ | isWritable | content
  · cases files.changeNames path with
    | error fault => rfl
    | ok _ => exact congrArg Except.ok commutes.symm
  · rfl
  · rfl

/-- A change off the way comes to the same before and after the directories are made. -/
theorem makeDirectories_of_node? (change : Files → Files)
    (same : ∀ files place, place <+: path → (change files).node? place = files.node? place)
    (commutes : ∀ files place, place <+: path →
      change (files.put place (.directory true)) = (change files).put place (.directory true)) :
    (change files).makeDirectories path = (files.makeDirectories path).map change := by
  have along : ∀ place ∈ path.above ++ [path], place <+: path := by
    intro place onTheWay
    rw [List.mem_append, List.mem_singleton] at onTheWay
    rcases onTheWay with onTheWay | rfl
    · obtain ⟨count, _, rfl⟩ := List.mem_map.mp onTheWay
      exact List.take_prefix count path
    · exact List.prefix_refl _
  have made : ∀ (places : List Path) (files : Files), (∀ place ∈ places, place <+: path) →
      places.foldlM ensureDirectory (change files)
        = (places.foldlM ensureDirectory files).map change := by
    intro places
    induction places with
    | nil => exact fun _ _ => rfl
    | cons place rest ih =>
        intro files onTheWay
        have first := onTheWay place List.mem_cons_self
        rw [List.foldlM_cons, List.foldlM_cons, ensureDirectory_of_node? change
          (fun above before => same files above (before.trans first)) (commutes files place first)]
        cases files.ensureDirectory place with
        | error fault => rfl
        | ok changed =>
            exact ih changed fun above inRest => onTheWay above (List.mem_cons_of_mem _ inRest)
  have blocked : path.above.any (change files).isFile = path.above.any files.isFile := by
    rw [Bool.eq_iff_iff, List.any_eq_true, List.any_eq_true]
    refine exists_congr fun place => and_congr_right fun onTheWay => ?_
    rw [isFile, isFile, same files place (along place (List.mem_append_left _ onTheWay))]
  unfold makeDirectories
  rw [blocked, made _ files along]
  split
  · rfl
  · rfl

/-- No file goes and none comes while directories are made. -/
theorem isFile_makeDirectories_eq (h : files.makeDirectories path = .ok changed) :
    changed.isFile place = files.isFile place := by
  cases stands : files.isFile place with
  | false => exact isFile_makeDirectories h stands
  | true =>
      unfold makeDirectories at h
      split at h
      · cases h
      · refine Result.foldlM_induction (P := fun made => made.isFile place = true)
          (fun {made next item} _ file ensured => ?_) stands h
        by_cases same : place = next
        · subst same
          unfold isFile at file
          split at file
          · next stands => simp [ensureDirectory, stands] at ensured
          · cases file
        · rw [isFile, node?_ensureDirectory ensured same]
          exact file

theorem node?_effect (untouched : ¬ step.Touches place) :
    (step.effect files).node? place = files.node? place :=
  node?_perform (by simpa using untouched)

/-- Only what has a name in the directory has changed. -/
inductive Edited (directory : Path) (files : Files) : Files → Prop where
  | unchanged : Edited directory files files
  | put {changed : Files} (name : String) (node : Node) (before : Edited directory files changed) :
      Edited directory files (changed.put (directory ++ [name]) node)
  | drop {changed : Files} (name : String) (before : Edited directory files changed) :
      Edited directory files (changed.drop (directory ++ [name]))

theorem edited_createFile (h : files.createFile (directory ++ [name]) = .ok changed) :
    Edited directory files changed := by
  unfold createFile at h
  split at h
  · cases h
  · cases h
    exact .put _ _ .unchanged
  · obtain ⟨_, _, created⟩ := Result.bind_eq_ok.mp h
    cases created
    exact .put _ _ .unchanged

theorem edited_removeFile (h : files.removeFile (directory ++ [name]) = .ok changed) :
    Edited directory files changed := by
  unfold removeFile at h
  split at h
  · obtain ⟨_, _, removed⟩ := Result.bind_eq_ok.mp h
    cases removed
    exact .drop _ .unchanged
  · cases h
  · cases h

theorem edited_renameFile {target : String}
    (h : files.renameFile (directory ++ [name]) (directory ++ [target]) = .ok changed) :
    Edited directory files changed := by
  obtain ⟨content, _, h⟩ := Result.bind_eq_ok.mp h
  split at h
  · cases h
  · obtain ⟨_, _, renamed⟩ := Result.bind_eq_ok.mp h
    cases renamed
    exact .put _ _ (.drop _ .unchanged)

theorem edited_effect (inside : step.Inside directory) :
    Edited directory files (step.effect files) := by
  cases applied : step.apply files with
  | error fault =>
      rw [Step.effect_of_error applied]
      exact .unchanged
  | ok changed =>
      rw [Step.effect_of_ok applied]
      cases inside with
      | clear name =>
          simp only [Step.apply] at applied
          split at applied
          · cases applied
            exact .unchanged
          · exact edited_removeFile applied
      | createFile name => exact edited_createFile applied
      | append name bytes =>
          obtain ⟨content, _, written⟩ := Result.bind_eq_ok.mp applied
          cases written
          exact .put _ _ .unchanged
      | rename source target => exact edited_renameFile applied

theorem eq_or_put_of_ensureDirectory (h : files.ensureDirectory path = .ok changed) :
    changed = files ∨ changed = files.put path (.directory true) := by
  unfold ensureDirectory at h
  split at h
  · cases h
    exact .inl rfl
  · cases h
  · obtain ⟨_, _, made⟩ := Result.bind_eq_ok.mp h
    cases made
    exact .inr rfl

theorem keeps_ensureDirectory (h : files.ensureDirectory path = .ok changed)
    (stands : files.isDirectory place = true) : changed.isDirectory place = true := by
  unfold isDirectory at stands
  split at stands
  · next found => exact isDirectory_of_node? (directory_ensureDirectory h found)
  · cases stands

theorem isDirectory_of_foldlM {places : List Path}
    (h : places.foldlM ensureDirectory files = .ok changed) :
    ∀ place ∈ places, changed.isDirectory place = true := by
  induction places generalizing files with
  | nil => simp
  | cons first rest ih =>
      rw [List.foldlM_cons] at h
      obtain ⟨made, ensured, others⟩ := Result.bind_eq_ok.mp h
      refine List.forall_mem_cons.mpr ⟨?_, ih others⟩
      exact Result.foldlM_induction (P := fun files => files.isDirectory first = true)
        (fun _ stands next => keeps_ensureDirectory next stands)
        (isDirectory_ensureDirectory ensured) others

/-- Where the way stands, only the last directory can be missing. -/
theorem makeDirectories_of_stand
    (stand : ∀ place ∈ around.above ++ [around], files.isDirectory place = true) :
    files.makeDirectories (around ++ [name]) = files.ensureDirectory (around ++ [name]) := by
  have free : (around.above ++ [around]).any files.isFile = false := by
    rw [List.any_eq_false]
    exact fun place onTheWay => Bool.eq_false_iff.mp (isFile_of_isDirectory (stand place onTheWay))
  rw [makeDirectories, Path.above_append, free, List.foldlM_append,
    foldlM_ensureDirectory_of_stand stand]
  simp only [Bool.false_eq_true, if_false, List.foldlM_cons, List.foldlM_nil, bind_pure]
  rfl

/-- The way to all directories in one place is the same. Unless it cannot be made, each of them is
then made at its end. -/
theorem makeDirectories_along (files : Files) (around : Path) :
    (∃ fault, ∀ name, files.makeDirectories (around ++ [name]) = .error fault) ∨
      ∃ way : Files, (∀ place ∈ around.above ++ [around], way.isDirectory place = true) ∧
        ∀ name, files.makeDirectories (around ++ [name])
          = way.ensureDirectory (around ++ [name]) := by
  by_cases blocked : (around.above ++ [around]).any files.isFile = true
  · refine .inl ⟨.notADirectory, fun name => ?_⟩
    rw [makeDirectories, Path.above_append, if_pos blocked]
  · cases made : (around.above ++ [around]).foldlM ensureDirectory files with
    | error fault =>
        refine .inl ⟨fault, fun name => ?_⟩
        rw [makeDirectories, Path.above_append, if_neg blocked, List.foldlM_append, made]
        rfl
    | ok way =>
        refine .inr ⟨way, isDirectory_of_foldlM made, fun name => ?_⟩
        rw [makeDirectories, Path.above_append, if_neg blocked, List.foldlM_append, made]
        simp only [List.foldlM_cons, List.foldlM_nil, bind_pure]
        rfl

end GraphEngine.Files
