import GraphEngine.Files.Step

/-!
What stands where after a change to the files.

A directory is open when it can be reached and names can be added in it. In an open directory no
single change fails unless a directory stands in its way.
-/
namespace GraphEngine

namespace Path

theorem above_append (path : Path) (name : String) :
    above (path ++ [name]) = above path ++ [path] := by
  have takes : ∀ count ∈ List.range path.length, (path ++ [name]).take count = path.take count := by
    intro count h
    exact List.take_append_of_le_length (Nat.le_of_lt (List.mem_range.mp h))
  simp only [above, List.length_append, List.length_singleton, List.range_succ, List.map_append,
    List.map_cons, List.map_nil, List.take_left', List.map_congr_left takes]

theorem length_lt_of_mem_above {path place : Path} (h : place ∈ path.above) :
    place.length < path.length := by
  obtain ⟨count, inRange, rfl⟩ := List.mem_map.mp h
  have := List.mem_range.mp inRange
  rw [List.length_take]
  omega

end Path

namespace Files

variable {files changed : Files} {path place : Path} {node : Node}

theorem node?_put (h : path ≠ []) :
    (files.put path node).node? place = if place = path then some node else files.node? place := by
  by_cases root : place = []
  · simp [node?, root, h.symm]
  · by_cases same : place = path
    · simp [node?, put, same, h]
    · simp [node?, put, root, same, Std.ExtTreeMap.getElem?_insert, Ne.symm same]

theorem node?_drop (h : path ≠ []) :
    (files.drop path).node? place = if place = path then none else files.node? place := by
  by_cases root : place = []
  · simp [node?, root, h.symm]
  · by_cases same : place = path
    · simp [node?, drop, same, h]
    · simp [node?, drop, root, same, Std.ExtTreeMap.getElem?_erase, Ne.symm same]

theorem isDirectory_of_node? (h : files.node? path = some node) :
    files.isDirectory path = match node with | .directory _ => true | .file _ => false := by
  cases node <;> simp [isDirectory, h]

theorem isFile_of_isDirectory (h : files.isDirectory path = true) : files.isFile path = false := by
  unfold isDirectory at h
  unfold isFile
  split at h
  · next found => rw [found]
  · cases h

theorem absence_eq_notFound (h : ∀ place ∈ path.above, files.isFile place = false) :
    files.absence path = .notFound := by
  rw [absence, if_neg]
  simpa using h

theorem has_eq (h : ∀ place ∈ path.above, files.isFile place = false) :
    files.has path = .ok (files.node? path).isSome := by
  unfold has find
  cases files.node? path with
  | none => simp [absence_eq_notFound h]
  | some node => rfl

theorem getD_lookup_cons (key place : Path) (stands otherwise : Option Node)
    (rest : List (Path × Option Node)) :
    (((key, stands) :: rest).lookup place).getD otherwise
      = if place = key then stands else (rest.lookup place).getD otherwise := by
  by_cases same : place = key
  · simp [same]
  · simp [List.lookup_cons, same, beq_eq_false_iff_ne.mpr same]

/-- Where the directories stand, making them changes nothing. -/
theorem foldlM_ensureDirectory_of_stand {places : List Path}
    (stand : ∀ place ∈ places, files.isDirectory place = true) :
    places.foldlM ensureDirectory files = .ok files := by
  induction places with
  | nil => rfl
  | cons place rest ih =>
      have first := stand place List.mem_cons_self
      simp only [isDirectory] at first
      split at first
      · next found =>
          simp only [List.foldlM_cons, ensureDirectory, found]
          exact ih fun place inRest => stand place (List.mem_cons_of_mem _ inRest)
      · cases first

/-- The files are what they were except at some places, of which the first mention counts. -/
structure Updated (files changed : Files) (places : List (Path × Option Node)) : Prop where
  here : changed.here = files.here
  node? : ∀ place, changed.node? place = (places.lookup place).getD (files.node? place)

namespace Updated

theorem trans {last : Files} {places others : List (Path × Option Node)}
    (first : Updated files changed places) (second : Updated changed last others) :
    Updated files last (others ++ places) := by
  refine ⟨second.here.trans first.here, fun place => ?_⟩
  rw [second.node?, first.node?, List.lookup_append]
  cases others.lookup place <;> rfl

theorem of_single {stands : Option Node} (here : changed.here = files.here)
    (h : ∀ place, changed.node? place = if place = path then stands else files.node? place) :
    Updated files changed [(path, stands)] := by
  refine ⟨here, fun place => ?_⟩
  rw [h, getD_lookup_cons]
  rfl

theorem put (h : path ≠ []) : Updated files (files.put path node) [(path, some node)] :=
  of_single rfl fun _ => node?_put h

theorem drop (h : path ≠ []) : Updated files (files.drop path) [(path, none)] :=
  of_single rfl fun _ => node?_drop h

theorem of_node? {stands : Option Node} (h : files.node? path = stands) :
    Updated files files [(path, stands)] := by
  refine of_single rfl fun place => ?_
  split
  · next same => rw [same, h]
  · rfl

theorem congr {places others : List (Path × Option Node)} (h : Updated files changed places)
    (same : ∀ place, others.lookup place = places.lookup place) : Updated files changed others :=
  ⟨h.here, fun place => by rw [same, h.node?]⟩

theorem node?_of_notMem {places : List (Path × Option Node)} (h : Updated files changed places)
    (elsewhere : ∀ entry ∈ places, place ≠ entry.1) : changed.node? place = files.node? place := by
  have missing : places.lookup place = none := by
    rw [List.lookup_eq_none_iff]
    exact fun entry listed => bne_iff_ne.mpr (elsewhere entry listed)
  rw [h.node?, missing, Option.getD_none]

theorem isDirectory_eq_false {places : List (Path × Option Node)}
    (h : Updated files changed places) (before : files.isDirectory place = false)
    (noDirectories : ∀ entry ∈ places, ∀ isWritable, entry.2 ≠ some (.directory isWritable)) :
    changed.isDirectory place = false := by
  unfold isDirectory at before ⊢
  rw [h.node?]
  cases found : places.lookup place with
  | none => exact before
  | some stands =>
      obtain ⟨_, _, split, _⟩ := List.lookup_eq_some_iff.mp found
      have allowed := noDirectories (place, stands) (split ▸ List.mem_append_cons_self)
      rw [Option.getD_some]
      split
      · next isWritable => exact absurd rfl (allowed isWritable)
      · rfl

end Updated

/-- Every directory is still there, and so is the place where one stands. -/
structure Keeps (files changed : Files) : Prop where
  here : changed.here = files.here
  directories : ∀ {path}, files.isDirectory path = true → changed.isDirectory path = true

namespace Keeps

theorem refl (files : Files) : Keeps files files := ⟨rfl, id⟩

theorem trans {last : Files} (first : Keeps files changed) (second : Keeps changed last) :
    Keeps files last :=
  ⟨second.here.trans first.here, second.directories ∘ first.directories⟩

/-- Only where there was no directory does anything else come to stand. -/
theorem of_updated {places : List (Path × Option Node)} (h : Updated files changed places)
    (free : ∀ entry ∈ places, files.isDirectory entry.1 = true →
      ∃ isWritable, entry.2 = some (.directory isWritable)) : Keeps files changed := by
  refine ⟨h.here, fun {place} stands => ?_⟩
  unfold isDirectory at stands ⊢
  rw [h.node?]
  cases found : places.lookup place with
  | none => exact stands
  | some new =>
      obtain ⟨_, _, split, _⟩ := List.lookup_eq_some_iff.mp found
      obtain ⟨isWritable, rfl⟩ := free (place, new) (split ▸ List.mem_append_cons_self) stands
      rfl

end Keeps

/-- The directories on the way are there, and names can be added in the last. -/
structure IsOpen (files : Files) (path : Path) : Prop where
  above : ∀ place ∈ path.above, files.isDirectory place = true
  writable : files.node? path = some (.directory true)

namespace IsOpen

theorem of_eq (h : files.IsOpen path)
    (same : ∀ place : Path, place.length ≤ path.length → changed.node? place = files.node? place) :
    changed.IsOpen path := by
  refine ⟨fun place onTheWay => ?_, by rw [same path (Nat.le_refl _), h.writable]⟩
  rw [← h.above place onTheWay, isDirectory, isDirectory,
    same place (Nat.le_of_lt (Path.length_lt_of_mem_above onTheWay))]

/-- What changes further down leaves a directory open. -/
theorem updated {places : List (Path × Option Node)} (h : files.IsOpen path)
    (update : Updated files changed places)
    (below : ∀ entry ∈ places, path.length < entry.1.length) : changed.IsOpen path := by
  refine h.of_eq fun place short => update.node?_of_notMem fun entry listed same => ?_
  have := below entry listed
  rw [same] at short
  omega

variable {directory : Path} {name : String}

theorem child (h : files.IsOpen directory)
    (writable : files.node? (directory ++ [name]) = some (.directory true)) :
    files.IsOpen (directory ++ [name]) := by
  refine ⟨fun place onTheWay => ?_, writable⟩
  rw [Path.above_append, List.mem_append, List.mem_singleton] at onTheWay
  rcases onTheWay with onTheWay | rfl
  · exact h.above place onTheWay
  · exact isDirectory_of_node? h.writable

theorem isFile_above (h : files.IsOpen directory) :
    ∀ place ∈ (directory ++ [name]).above, files.isFile place = false := by
  intro place onTheWay
  rw [Path.above_append, List.mem_append, List.mem_singleton] at onTheWay
  rcases onTheWay with onTheWay | rfl
  · exact isFile_of_isDirectory (h.above place onTheWay)
  · exact isFile_of_isDirectory (isDirectory_of_node? h.writable)

theorem changeNames (h : files.IsOpen directory) :
    files.changeNames (directory ++ [name]) = .ok () := by
  simp [Files.changeNames, find, h.writable]

theorem find_eq_notFound (h : files.IsOpen directory)
    (free : files.node? (directory ++ [name]) = none) :
    files.find (directory ++ [name]) = .error .notFound := by
  rw [find, free, absence_eq_notFound h.isFile_above]

theorem makeDirectories (h : files.IsOpen directory)
    (free : files.node? (directory ++ [name]) = none ∨
      files.node? (directory ++ [name]) = some (.directory true)) :
    ∃ changed, Step.apply files (.makeDirectories (directory ++ [name])) = .ok changed ∧
      Updated files changed [(directory ++ [name], some (.directory true))] := by
  have around : (directory ++ [name]).above.foldlM ensureDirectory files = .ok files := by
    refine foldlM_ensureDirectory_of_stand fun place onTheWay => ?_
    rw [Path.above_append, List.mem_append, List.mem_singleton] at onTheWay
    rcases onTheWay with onTheWay | rfl
    · exact h.above place onTheWay
    · exact isDirectory_of_node? h.writable
  have nothing : (directory ++ [name]).above.any files.isFile = false := by
    simpa using h.isFile_above
  rcases free with free | free
  · refine ⟨files.put (directory ++ [name]) (.directory true), ?_, .put (by simp)⟩
    simp [Step.apply, Files.makeDirectories, nothing, List.foldlM_append, around, bind,
      Except.bind, ensureDirectory, free, h.changeNames, pure, Except.pure]
  · refine ⟨files, ?_, .of_node? free⟩
    simp [Step.apply, Files.makeDirectories, nothing, List.foldlM_append, around, bind,
      Except.bind, ensureDirectory, free, pure, Except.pure]

theorem clear (h : files.IsOpen directory)
    (noDirectory : files.isDirectory (directory ++ [name]) = false) :
    ∃ changed, Step.apply files (.clear (directory ++ [name])) = .ok changed ∧
      Updated files changed [(directory ++ [name], none)] := by
  cases found : files.node? (directory ++ [name]) with
  | none =>
      refine ⟨files, ?_, .of_node? found⟩
      simp [Step.apply, removeFile, h.find_eq_notFound found]
  | some node =>
      cases node with
      | directory isWritable => simp [isDirectory, found] at noDirectory
      | file content =>
          refine ⟨files.drop (directory ++ [name]), ?_, .drop (by simp)⟩
          simp [Step.apply, removeFile, find, found, h.changeNames, bind, Except.bind, pure,
            Except.pure]

theorem createFile (h : files.IsOpen directory)
    (noDirectory : files.isDirectory (directory ++ [name]) = false) :
    ∃ changed, Step.apply files (.createFile (directory ++ [name])) = .ok changed ∧
      Updated files changed [(directory ++ [name], some (.file .empty))] := by
  refine ⟨files.put (directory ++ [name]) (.file .empty), ?_, .put (by simp)⟩
  cases found : files.node? (directory ++ [name]) with
  | none =>
      simp [Step.apply, Files.createFile, found, h.changeNames, bind, Except.bind, pure,
        Except.pure]
  | some node =>
      cases node with
      | directory isWritable => simp [isDirectory, found] at noDirectory
      | file content => simp [Step.apply, Files.createFile, found]

theorem rename {target : String} {content : Content} (h : files.IsOpen directory)
    (found : files.node? (directory ++ [name]) = some (.file content))
    (noDirectory : files.isDirectory (directory ++ [target]) = false) :
    ∃ changed,
      Step.apply files (.rename (directory ++ [name]) (directory ++ [target])) = .ok changed ∧
        Updated files changed
          [(directory ++ [target], some (.file content)), (directory ++ [name], none)] := by
  refine ⟨(files.drop (directory ++ [name])).put (directory ++ [target]) (.file content), ?_,
    (Updated.drop (by simp)).trans (.put (by simp))⟩
  unfold isDirectory at noDirectory
  simp only [Step.apply, renameFile, read, find, found, bind, Except.bind, h.changeNames, pure,
    Except.pure]
  split
  · next isWritable stands => simp [stands] at noDirectory
  · rfl

end IsOpen

theorem append_of_node? {content : Content} (bytes : List UInt8) (notRoot : path ≠ [])
    (found : files.node? path = some (.file content)) :
    ∃ changed, Step.apply files (.append path bytes) = .ok changed ∧
      Updated files changed [(path, some (.file (content.append bytes)))] := by
  refine ⟨files.put path (.file (content.append bytes)), ?_, .put notRoot⟩
  simp [Step.apply, appendBytes, read, find, found, bind, Except.bind, pure, Except.pure]

theorem perform_cons {step : Step} {rest : List Step} (h : step.apply files = .ok changed) :
    files.perform (step :: rest) = changed.perform rest := by
  rw [perform, h]

theorem perform_append {first rest : List Step} (h : files.perform first = (.ok (), changed)) :
    files.perform (first ++ rest) = changed.perform rest := by
  induction first generalizing files with
  | nil =>
      cases h
      rfl
  | cons step others ih =>
      rw [perform] at h
      rw [List.cons_append, perform]
      split at h
      · exact ih h
      · cases h

end Files
end GraphEngine
