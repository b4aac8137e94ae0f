import GraphEngine.Proofs.Files.Places
import GraphEngine.Proofs.Result
import GraphEngine.Store
import Mathlib.Data.List.Basic

/-!
Opening areas once more.

A trail that led to a directory leads there as long as no directory on the way goes away, and then
opening makes nothing.
-/
namespace GraphEngine

namespace Files

variable {files changed : Files} {path place : Path} {trail : Trail} {name : String}

namespace Keeps

theorem enter (h : Keeps files changed) (entered : files.enter path name = .ok place) :
    changed.enter path name = .ok place := by
  unfold Files.enter at entered ⊢
  cases stands : files.node? path with
  | none => simp [stands] at entered
  | some node =>
      cases node with
      | file content => simp [stands] at entered
      | directory isWritable =>
          have kept := h.directories (isDirectory_of_node? stands)
          simp only [stands] at entered
          unfold isDirectory at kept
          split at kept
          · next found => 
              rw [found]
              exact entered
          · cases kept

theorem foldlM_enter (h : Keeps files changed) {names : List String}
    (entered : names.foldlM files.enter path = .ok place) :
    names.foldlM changed.enter path = .ok place := by
  induction names generalizing path with
  | nil => exact entered
  | cons name rest ih =>
      rw [List.foldlM_cons] at entered ⊢
      obtain ⟨between, first, others⟩ := Result.bind_eq_ok.mp entered
      exact Result.bind_eq_ok.mpr ⟨between, h.enter first, ih others⟩

end Keeps

theorem follow_eq_ok (stands : files.isFile path = false) :
    files.follow trail = .ok path ↔
      trail.names.foldlM files.enter (if trail.startsAtRoot then [] else files.here)
        = .ok path := by
  rw [follow, Result.bind_eq_ok]
  constructor
  · rintro ⟨last, entered, ends⟩
    dsimp only at ends
    split at ends
    · cases ends
    · cases ends
      exact entered
  · intro entered
    exact ⟨path, entered, by simp [stands, pure, Except.pure]⟩

theorem Keeps.follow (h : Keeps files changed) (followed : files.follow trail = .ok path)
    (stands : files.isDirectory path = true) : changed.follow trail = .ok path := by
  rw [follow_eq_ok (isFile_of_isDirectory stands)] at followed
  rw [follow_eq_ok (isFile_of_isDirectory (h.directories stands)), h.here]
  exact h.foldlM_enter followed

theorem makeDirectory_eq_ok (h : files.makeDirectory trail = .ok changed) :
    ∃ path, files.follow { trail with asksDirectory := false } = .ok path ∧
      files.node? path = none ∧ changed = files.put path (.directory true) := by
  rw [makeDirectory, Result.bind_eq_ok] at h
  obtain ⟨around, _, h⟩ := h
  obtain ⟨path, followed, h⟩ := Result.bind_eq_ok.mp h
  dsimp only at h
  split at h
  · cases h
  split at h
  · cases h
  · next free =>
      obtain ⟨_, _, made⟩ := Result.bind_eq_ok.mp h
      cases made
      exact ⟨path, followed, Option.not_isSome_iff_eq_none.mp free, rfl⟩

theorem keeps_makeDirectory (h : files.makeDirectory trail = .ok changed) :
    Keeps files changed := by
  obtain ⟨path, _, free, rfl⟩ := makeDirectory_eq_ok h
  have notRoot : path ≠ [] := by
    rintro rfl
    simp [node?] at free
  exact .of_updated (.put notRoot) (by simp)

theorem keeps_makeLast : Keeps files (files.makeLast trail).2 := by
  unfold makeLast
  split
  · next made => exact keeps_makeDirectory made
  · exact .refl files

theorem directoryOr_eq_ok {fault : SystemFault} :
    files.directoryOr trail fault = .ok path ↔
      files.follow trail = .ok path ∧ files.isDirectory path = true := by
  unfold directoryOr
  cases files.follow trail with
  | error fault => simp
  | ok last =>
      by_cases stands : files.isDirectory last = true
      · simp only [stands, if_true, Except.ok.injEq]
        constructor
        · rintro rfl
          exact ⟨rfl, stands⟩
        · exact And.left
      · simp only [stands, Bool.false_eq_true, if_false, reduceCtorEq, Except.ok.injEq, false_iff,
          not_and]
        rintro rfl
        exact stands

theorem makeLast_ok (h : files.makeLast trail = (.ok path, changed)) :
    changed.follow trail = .ok path ∧ changed.isDirectory path = true := by
  unfold makeLast at h
  split at h
  all_goals
    obtain ⟨found, rfl⟩ := Prod.mk.inj h
    exact directoryOr_eq_ok.mp found

theorem makeLast_of_follow (followed : files.follow trail = .ok path)
    (stands : files.isDirectory path = true) : files.makeLast trail = (.ok path, files) := by
  unfold makeLast
  split
  · next made =>
      obtain ⟨free, led, nothing, _⟩ := makeDirectory_eq_ok made
      have noFile : files.isFile free = false := by simp [isFile, nothing]
      rw [follow_eq_ok (isFile_of_isDirectory stands)] at followed
      have same : free = path :=
        Except.ok.inj (((follow_eq_ok noFile).mp led).symm.trans followed)
      rw [← same, isDirectory, nothing] at stands
      cases stands
  · rw [directoryOr_eq_ok.mpr ⟨followed, stands⟩]

theorem keeps_makeAll : Keeps files (files.makeAll trail).2 := by
  fun_induction makeAll files trail with
  | case1 trail unchanged failed outermost =>
      rw [← failed]
      exact keeps_makeLast
  | case2 trail unchanged failed above further fault changed stopped ih =>
      rw [stopped] at ih
      exact ih
  | case3 trail unchanged failed above further place changed made ih =>
      rw [made] at ih
      exact ih.trans keeps_makeLast
  | case4 trail other => exact keeps_makeLast

theorem makeAll_ok (h : files.makeAll trail = (.ok path, changed)) :
    changed.follow trail = .ok path ∧ changed.isDirectory path = true := by
  unfold makeAll at h
  split at h
  · split at h
    · cases h
    · split at h
      · cases h
      · exact makeLast_ok h
  · exact makeLast_ok h

theorem makeAll_of_follow (followed : files.follow trail = .ok path)
    (stands : files.isDirectory path = true) : files.makeAll trail = (.ok path, files) := by
  unfold makeAll
  rw [makeLast_of_follow followed stands]

theorem keeps_prepareDirectory (files : Files) (text : String) :
    Keeps files (files.prepareDirectory text).2 := by
  unfold prepareDirectory
  split
  · exact .refl files
  · split
    · exact .refl files
    · exact keeps_makeAll

theorem prepareDirectory_again {text : String} {later : Files}
    (h : files.prepareDirectory text = (.ok path, changed)) (keeps : Keeps changed later) :
    later.prepareDirectory text = (.ok path, later) := by
  unfold prepareDirectory at h ⊢
  split
  · next none =>
      rw [if_pos none] at h
      cases h
      rw [keeps.here]
  · next some =>
      rw [if_neg some] at h
      split at h
      · cases h
      · obtain ⟨followed, stands⟩ := makeAll_ok h
        exact makeAll_of_follow (keeps.follow followed stands) (keeps.directories stands)

end Files

namespace Area

variable {area : Area} {files changed : Files} {name role : String}

theorem keeps_prepare (files : Files) (name role : String) :
    Files.Keeps files (prepare name role files).2 := by
  have keeps := files.keeps_prepareDirectory name
  unfold prepare
  split
  · next prepared => rwa [prepared] at keeps
  · next prepared => rwa [prepared] at keeps

theorem prepare_again {later : Files} (h : prepare name role files = (.ok area, changed))
    (keeps : Files.Keeps changed later) : prepare area.name role later = (.ok area, later) := by
  unfold prepare at h ⊢
  split at h
  · next prepared =>
      cases h
      rw [Files.prepareDirectory_again prepared keeps]
  · cases h

end Area

namespace Store

variable {store : Store} {files opened : Files} {ordered staging : String}

theorem openAreas_ok (h : openAreas ordered staging files = (.ok store, opened)) :
    store.memory = ∅ ∧ store.files = opened := by
  unfold openAreas at h
  split at h
  · cases h
  · split at h
    · cases h
    · cases h
      exact ⟨rfl, rfl⟩

/-- The areas are found where they were, and no files change. -/
theorem openAreas_again {later : Files} (h : openAreas ordered staging files = (.ok store, opened))
    (keeps : Files.Keeps opened later) :
    openAreas store.ordered.name store.staging.name later
      = (.ok { store with memory := ∅, files := later }, later) := by
  unfold openAreas at h
  split at h
  · cases h
  · next first prepared =>
      split at h
      · cases h
      · next second opens =>
          cases h
          have between := Area.keeps_prepare first staging "unordered"
          rw [opens] at between
          simp only [openAreas, Area.prepare_again prepared (between.trans keeps),
            Area.prepare_again opens keeps]

/-- Two empty areas side by side. -/
def twoAreas : Files :=
  (Files.empty.put ["ordered"] (.directory true)).put ["staging"] (.directory true)

def overTwoAreas : Store := ⟨∅, twoAreas, ⟨"ordered", ["ordered"]⟩, ⟨"staging", ["staging"]⟩⟩

theorem openAreas_twoAreas :
    openAreas "ordered" "staging" twoAreas = (.ok overTwoAreas, twoAreas) := by
  have first : twoAreas.makeAll (.ofText "ordered") = (.ok ["ordered"], twoAreas) :=
    Files.makeAll_of_follow (by decide +kernel) (by decide +kernel)
  have second : twoAreas.makeAll (.ofText "staging") = (.ok ["staging"], twoAreas) :=
    Files.makeAll_of_follow (by decide +kernel) (by decide +kernel)
  have texts : Files.textFault? "ordered" = none ∧ Files.textFault? "staging" = none := by
    decide +kernel
  simp [openAreas, Area.prepare, Files.prepareDirectory, texts, first, second, overTwoAreas]

end Store
end GraphEngine
