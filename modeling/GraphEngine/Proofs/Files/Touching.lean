import GraphEngine.Proofs.Files.Clearance

/-!
Which places steps lay hands on.

A step that is performed creates, writes, renames or removes what is at some places, and these are
listed as it goes, also where it fails. Everything else stays as it is. A row of steps that only
names one directory and some files in it touches just these, if the way to the directory stands.
-/
namespace GraphEngine

theorem Path.mem_above_append {path place : Path} :
    place ∈ path.above ++ [path] ↔ place <+: path := by
  rw [List.mem_append, List.mem_singleton]
  constructor
  · rintro (above | rfl)
    · obtain ⟨count, _, rfl⟩ := List.mem_map.mp above
      exact List.take_prefix count path
    · exact List.prefix_refl _
  · intro onTheWay
    by_cases same : place = path
    · exact .inr same
    · have short : place.length < path.length :=
        lt_of_le_of_ne onTheWay.length_le fun long => same (onTheWay.eq_of_length long)
      exact .inl (List.mem_map.mpr ⟨place.length, List.mem_range.mpr short,
        (List.prefix_iff_eq_take.mp onTheWay).symm⟩)

namespace Files

variable {files changed : Files} {around path place : Path} {name : String} {node : Node}
  {step : Step} {steps : List Step}

/-- What a step creates, writes, renames or removes. Directories on the way count where there are
none yet. -/
def Step.touched (files : Files) : Step → List Path
  | .makeDirectories path => (path.above ++ [path]).filter fun place => (files.node? place).isNone
  | .clear path | .createFile path | .append path _ => [path]
  | .rename source target => [source, target]

/-- What the steps touch, up to and including the first that fails. -/
def touched (files : Files) : List Step → List Path
  | [] => []
  | step :: rest =>
      step.touched files ++
        match step.apply files with
        | .ok changed => changed.touched rest
        | .error _ => []

/-- Making directories leaves what is there, be it on the way or not. -/
theorem node?_makeDirectories_of_some (made : files.makeDirectories path = .ok changed)
    (found : files.node? place = some node) : changed.node? place = some node := by
  unfold makeDirectories at made
  split at made
  · cases made
  · refine Result.foldlM_induction (P := fun made => made.node? place = some node)
      (fun {between next _} _ found ensured => ?_) found made
    unfold ensureDirectory at ensured
    split at ensured
    · cases ensured
      exact found
    · cases ensured
    · next free =>
        obtain ⟨_, _, put⟩ := Result.bind_eq_ok.mp ensured
        cases put
        rw [node?_put_of_ne, found]
        rintro rfl
        cases free.symm.trans found

theorem node?_apply_of_not_touched (applied : step.apply files = .ok changed)
    (untouched : place ∉ step.touched files) : changed.node? place = files.node? place := by
  cases step with
  | makeDirectories path =>
      by_cases onTheWay : place <+: path
      · cases found : files.node? place with
        | some node => exact node?_makeDirectories_of_some applied found
        | none =>
            refine absurd (List.mem_filter.mpr ?_) untouched
            exact ⟨Path.mem_above_append.mpr onTheWay, by rw [found]; rfl⟩
      · exact node?_makeDirectories applied onTheWay
  | clear path | createFile path | append path bytes =>
      exact node?_apply applied fun same => untouched (List.mem_singleton.mpr same)
  | rename source target =>
      refine node?_apply applied fun same => untouched ?_
      simpa [Step.touched, Step.Touches] using same

theorem node?_perform_of_not_touched (untouched : place ∉ files.touched steps) :
    (files.perform steps).2.node? place = files.node? place := by
  induction steps generalizing files with
  | nil => rfl
  | cons step rest ih =>
      rw [touched, List.mem_append, not_or] at untouched
      rw [perform]
      cases applied : step.apply files with
      | ok changed =>
          rw [applied] at untouched
          exact (ih untouched.2).trans (node?_apply_of_not_touched applied untouched.1)
      | error fault => rfl

/-- The directory, or one of these names in it. -/
def IsOneOf (directory : Path) (names : List String) (place : Path) : Prop :=
  place = directory ∨ ∃ name ∈ names, place = directory ++ [name]

/-- The step makes the directory or is about files of these names in it. -/
def Step.Names (directory : Path) (names : List String) : Step → Prop
  | .makeDirectories path => path = directory
  | .clear path | .createFile path | .append path _ => ∃ name ∈ names, path = directory ++ [name]
  | .rename source target =>
      (∃ name ∈ names, source = directory ++ [name]) ∧
        ∃ name ∈ names, target = directory ++ [name]

/-- The directory and all on the way to it are there. -/
def Stands (files : Files) (path : Path) : Prop :=
  ∀ place, place <+: path → files.isDirectory place = true

theorem Stands.apply (stands : files.Stands path) (applied : step.apply files = .ok changed) :
    changed.Stands path := by
  intro place onTheWay
  have before := stands place onTheWay
  unfold isDirectory at before
  split at before
  · next found => exact isDirectory_of_node? (directory_apply applied found)
  · cases before

theorem isOneOf_of_mem_step_touched {names : List String} (stands : files.Stands around)
    (named : step.Names (around ++ [name]) names) (touched : place ∈ step.touched files) :
    IsOneOf (around ++ [name]) names place := by
  cases step with
  | makeDirectories path =>
      cases named
      obtain ⟨onTheWay, free⟩ := List.mem_filter.mp touched
      rcases List.prefix_concat_iff.mp (Path.mem_above_append.mp onTheWay) with last | above
      · exact .inl last
      · -- On the way to the directory nothing is missing.
        have found := stands place above
        unfold isDirectory at found
        rw [Option.isNone_iff_eq_none.mp free] at found
        cases found
  | clear path | createFile path | append path bytes =>
      rw [List.mem_singleton.mp touched]
      exact .inr named
  | rename source target =>
      simp only [Step.touched, List.mem_cons, List.not_mem_nil, or_false] at touched
      rcases touched with rfl | rfl
      · exact .inr named.1
      · exact .inr named.2

theorem isOneOf_of_mem_touched {names : List String} (stands : files.Stands around)
    (named : ∀ step ∈ steps, step.Names (around ++ [name]) names)
    (listed : place ∈ files.touched steps) : IsOneOf (around ++ [name]) names place := by
  induction steps generalizing files with
  | nil => cases listed
  | cons step rest ih =>
      obtain ⟨first, others⟩ := List.forall_mem_cons.mp named
      rw [touched, List.mem_append] at listed
      rcases listed with now | later
      · exact isOneOf_of_mem_step_touched stands first now
      · split at later
        · next applied => exact ih (stands.apply applied) others later
        · cases later

theorem IsOneOf.below {directory : Path} {names : List String}
    (h : IsOneOf directory names place) : directory <+: place := by
  rcases h with rfl | ⟨name, _, rfl⟩
  · exact List.prefix_refl _
  · exact List.prefix_append _ _

end Files
end GraphEngine
