import GraphEngine.Proofs.Files.Interruption
import GraphEngine.Proofs.Store.Refinement

/-!
A save may be interrupted anywhere.

The marker goes before the data is touched, and it is back only when the data is whole. So what is
found after an interruption is the entity from before, or none, or the new one if the save came to
its end; and the next save is not disturbed by what the interrupted one has left.
-/
namespace GraphEngine.Area

open Files (Step)

variable {area : Area} {files changed left : Files} {guid : Guid} {entity : Entity}

theorem performAll_eq_ok {steps : Except EngineError (List Step)} :
    performAll steps files = (.ok (), changed) ↔
      ∃ list, steps = .ok list ∧ files.perform list = (.ok (), changed) := by
  cases steps with
  | error error => simp [performAll]
  | ok list =>
      simp only [performAll, Except.ok.injEq, exists_eq_left']
      generalize files.perform list = performed
      obtain ⟨_ | _, _⟩ := performed <;> simp [Except.mapError]

/-- The steps of a save up to the one that brings the marker back. -/
def unmarkedSteps (area : Area) (guid : Guid) (entity : Entity) : List Step :=
  replaceSteps (area.folder guid) dataName entity.encode

theorem saveSteps_of_isSafe (safe : guid.isSafe = true) :
    area.saveSteps guid entity = .ok
      (.makeDirectories (area.folder guid) :: .clear (area.folder guid ++ [markerName]) ::
        (area.unmarkedSteps guid entity ++ [.createFile (area.folder guid ++ [markerName])])) := by
  simp only [saveSteps, directory_of_isSafe safe, bind, Except.bind, pure, Except.pure]
  rfl

/-- The files between the stages of a save that succeeds. -/
structure Stages (area : Area) (guid : Guid) (entity : Entity)
    (files made cleared replaced changed : Files) : Prop where
  safe : guid.isSafe = true
  makes : files.makeDirectories (area.folder guid) = .ok made
  clears : Step.apply made (.clear (area.folder guid ++ [markerName])) = .ok cleared
  replaces : cleared.perform (area.unmarkedSteps guid entity) = (.ok (), replaced)
  marks : Step.apply replaced (.createFile (area.folder guid ++ [markerName])) = .ok changed

theorem save_eq_ok : area.save guid entity files = (.ok (), changed) ↔
    ∃ made cleared replaced, area.Stages guid entity files made cleared replaced changed := by
  cases safe : guid.isSafe with
  | false =>
      rw [save_of_not_isSafe safe]
      constructor
      · intro saves
        cases saves
      · rintro ⟨_, _, _, stages⟩
        cases safe.symm.trans stages.safe
  | true =>
      have performs : area.save guid entity files = (.ok (), changed) ↔
          files.perform (.makeDirectories (area.folder guid) ::
            .clear (area.folder guid ++ [markerName]) ::
            (area.unmarkedSteps guid entity
              ++ [.createFile (area.folder guid ++ [markerName])])) = (.ok (), changed) := by
        rw [save, saveSteps_of_isSafe safe, performAll_eq_ok]
        simp
      rw [performs, Files.perform_cons_eq_ok]
      constructor
      · rintro ⟨made, makes, performed⟩
        obtain ⟨cleared, clears, performed⟩ := Files.perform_cons_eq_ok.mp performed
        obtain ⟨replaced, replaces, last⟩ := Files.perform_append_eq_ok.mp performed
        obtain ⟨_, marks, ended⟩ := Files.perform_cons_eq_ok.mp last
        cases ended
        exact ⟨made, cleared, replaced, safe, makes, clears, replaces, marks⟩
      · rintro ⟨made, cleared, replaced, stages⟩
        exact ⟨made, stages.makes, Files.perform_cons_eq_ok.mpr ⟨cleared, stages.clears,
          Files.perform_append_eq_ok.mpr ⟨replaced, stages.replaces,
            Files.perform_cons_eq_ok.mpr ⟨changed, stages.marks, rfl⟩⟩⟩⟩

/-- No step in between is at the marker or on the way to it. -/
theorem untouched_unmarkedSteps {place : Path} {step part : Step}
    (listed : step ∈ area.unmarkedSteps guid entity) (isPart : part.IsPart step)
    (atMarker : place <+: area.folder guid ++ [markerName]) : ¬ part.Touches place := by
  have elsewhere : ∀ name, name ≠ markerName → place ≠ area.folder guid ++ [name] := by
    rintro name other rfl
    have same := List.IsPrefix.eq_of_length atMarker (by simp)
    simp [other] at same
  have data := elsewhere dataName (by decide)
  have temporary := elsewhere (temporaryName dataName) (by decide)
  simp only [unmarkedSteps, replaceSteps, List.mem_cons, List.not_mem_nil, or_false] at listed
  rcases listed with rfl | rfl | rfl <;> cases isPart <;>
    simp [Step.Touches, data, temporary]

/-- Bytes that have come through a temporary file stand at their place. -/
theorem node?_of_replaceSteps {directory : Path} {name : String} {bytes : List UInt8}
    (performed : files.perform (replaceSteps directory name bytes) = (.ok (), changed)) :
    changed.node? (directory ++ [name]) = some (.file (.ofBytes bytes)) := by
  obtain ⟨created, creates, performed⟩ := Files.perform_cons_eq_ok.mp performed
  obtain ⟨written, writes, performed⟩ := Files.perform_cons_eq_ok.mp performed
  obtain ⟨renamed, renames, performed⟩ := Files.perform_cons_eq_ok.mp performed
  cases performed
  have empty := Files.node?_of_createFile (by simp) creates
  have full := Files.node?_of_append (by simp) empty writes
  exact Files.node?_of_rename (by simp) full renames

theorem data_of_save (saves : area.save guid entity files = (.ok (), changed)) :
    area.contains guid changed = .ok true ∧
      changed.node? (area.folder guid ++ [dataName]) = some (.file (.ofBytes entity.encode)) := by
  obtain ⟨made, cleared, replaced, stages⟩ := save_eq_ok.mp saves
  have marker := Files.node?_of_createFile (by simp) stages.marks
  refine ⟨contains_eq_true.mpr ⟨stages.safe, by rw [marker]; rfl⟩, ?_⟩
  rw [Files.node?_apply stages.marks (by simp [Step.Touches, dataName, markerName])]
  exact node?_of_replaceSteps stages.replaces

/-- Whatever stood there before, a save that succeeds is found again. -/
theorem contains_and_load_of_save (readable : Readable entity)
    (saves : area.save guid entity files = (.ok (), changed)) :
    area.contains guid changed = .ok true ∧ area.load guid none changed = .ok entity := by
  obtain ⟨marked, data⟩ := data_of_save saves
  exact ⟨marked, load_eq_ok.mpr ⟨marked, _, data, decodeAs_encode readable none⟩⟩

/-- The files in the folder are as they were, and no new one is anywhere. -/
structure Untouched (area : Area) (guid : Guid) (files left : Files) : Prop where
  inFolder : ∀ name, left.node? (area.folder guid ++ [name])
    = files.node? (area.folder guid ++ [name])
  noFile : ∀ {place}, files.isFile place = false → left.isFile place = false

theorem Untouched.refl (files : Files) : area.Untouched guid files files := ⟨fun _ => rfl, id⟩

theorem untouched_of_makeDirectories {place : Path} (onTheWay : place <+: area.folder guid)
    (made : files.makeDirectories place = .ok left) : area.Untouched guid files left := by
  refine ⟨fun name => Files.node?_makeDirectories made fun inside => ?_,
    Files.isFile_makeDirectories made⟩
  have short := (inside.trans onTheWay).length_le
  simp at short

/-- No more has been done than to make the folder, or part of the way to it. -/
def Early (area : Area) (guid : Guid) (files left : Files) : Prop :=
  files.Leaves [.makeDirectories (area.folder guid)] left

theorem Early.untouched (early : area.Early guid files left) :
    area.Untouched guid files left := by
  cases early with
  | stopped => exact .refl files
  | inside isPart made =>
      cases isPart with
      | whole => exact untouched_of_makeDirectories (List.prefix_refl _) made
      | directories onTheWay =>
          obtain ⟨count, _, rfl⟩ := List.mem_map.mp onTheWay
          exact untouched_of_makeDirectories (List.take_prefix _ _) made
  | step makes ended =>
      rw [ended.nil]
      exact untouched_of_makeDirectories (List.prefix_refl _) makes

theorem Unmarked.of_untouched (h : area.Unmarked guid files)
    (untouched : area.Untouched guid files left) : area.Unmarked guid left where
  absent := (untouched.inFolder markerName).trans h.absent
  reachable place onTheWay := untouched.noFile (h.reachable place onTheWay)

theorem Unmarked.of_eq (h : area.Unmarked guid files)
    (same : ∀ place, place <+: area.folder guid ++ [markerName] →
      left.node? place = files.node? place) : area.Unmarked guid left where
  absent := (same _ (List.prefix_refl _)).trans h.absent
  reachable place onTheWay := by
    obtain ⟨count, _, rfl⟩ := List.mem_map.mp onTheWay
    rw [Files.isFile, same _ (List.take_prefix _ _)]
    exact h.reachable _ onTheWay

theorem unmarked_of_clear {made : Files}
    (makes : files.makeDirectories (area.folder guid) = .ok made)
    (clears : Step.apply made (.clear (area.folder guid ++ [markerName])) = .ok left) :
    area.Unmarked guid left where
  absent := Files.node?_of_clear (Files.isDirectory_makeDirectories makes) clears
  reachable place onTheWay := by
    have elsewhere : place ≠ area.folder guid ++ [markerName] := by
      rintro rfl
      exact Nat.lt_irrefl _ (Path.length_lt_of_mem_above onTheWay)
    rw [Files.isFile, Files.node?_apply clears elsewhere]
    exact Files.isFile_above_of_makeDirectories makes place onTheWay

theorem unmarked_of_leaves (h : area.Unmarked guid files)
    (leaves : files.Leaves (area.unmarkedSteps guid entity) left) : area.Unmarked guid left :=
  leaves.invariant h fun listed isPart unmarked applied =>
    unmarked.of_eq fun _ atMarker =>
      Files.node?_apply applied (untouched_unmarkedSteps listed isPart atMarker)

/-- What is found of the guid when a save of the entity over the files has left others. -/
inductive Found (area : Area) (guid : Guid) (entity : Entity) (files left : Files) : Prop where
  /-- The old entity, as long as the old marker has not been touched. -/
  | before {old : Entity} (early : area.Early guid files left)
      (loaded : area.load guid none files = .ok old)
      (marker : left.node? (area.folder guid ++ [markerName])
        = files.node? (area.folder guid ++ [markerName]))
      (contains : area.contains guid left = .ok true)
      (load : area.load guid none left = .ok old)
  | nothing (contains : area.contains guid left = .ok false)
      (load : area.load guid none left = .error (.entityNotFound guid))
  /-- The new entity, once the save has come to its end. -/
  | after (saves : area.save guid entity files = (.ok (), left))
      (contains : area.contains guid left = .ok true)
      (load : area.load guid none left = .ok entity)

theorem found_of_unmarked (safe : guid.isSafe = true) (unmarked : area.Unmarked guid left) :
    area.Found guid entity files left := by
  have absent : area.contains guid left = .ok false := contains_eq_false.mpr ⟨safe, unmarked⟩
  exact .nothing absent (load_of_contains_eq_false absent none)

theorem isSafe_of_begins (begins : area.contains guid files = .ok false ∨
    ∃ old, area.load guid none files = .ok old) : guid.isSafe = true := by
  rcases begins with absent | ⟨old, loaded⟩
  · exact isSafe_of_contains absent
  · exact isSafe_of_contains (load_eq_ok.mp loaded).1

theorem found_of_early (begins : area.contains guid files = .ok false ∨
    ∃ old, area.load guid none files = .ok old) (early : area.Early guid files left) :
    area.Found guid entity files left := by
  have untouched := early.untouched
  rcases begins with absent | ⟨old, loaded⟩
  · obtain ⟨safe, unmarked⟩ := contains_eq_false.mp absent
    exact found_of_unmarked safe (unmarked.of_untouched untouched)
  · obtain ⟨marked, content, data, decoded⟩ := load_eq_ok.mp loaded
    obtain ⟨safe, marker⟩ := contains_eq_true.mp marked
    rw [← untouched.inFolder] at marker data
    have stillMarked : area.contains guid left = .ok true := contains_eq_true.mpr ⟨safe, marker⟩
    exact .before early loaded (untouched.inFolder markerName) stillMarked
      (load_eq_ok.mpr ⟨stillMarked, content, data, decoded⟩)

theorem found_of_leaves (readable : Readable entity) {steps : List Step}
    (begins : area.contains guid files = .ok false ∨ ∃ old, area.load guid none files = .ok old)
    (listed : area.saveSteps guid entity = .ok steps) (leaves : files.Leaves steps left) :
    area.Found guid entity files left := by
  have safe := isSafe_of_begins begins
  cases (saveSteps_of_isSafe safe).symm.trans listed
  -- The marker divides the steps: what stands before its removal is early, what comes after leaves
  -- the guid unmarked until the last step.
  cases leaves with
  | stopped => exact found_of_early begins .stopped
  | inside isPart made => exact found_of_early begins (.inside isPart made)
  | step makes leaves =>
      cases leaves with
      | stopped => exact found_of_early begins (.step makes .stopped)
      | inside isPart clears =>
          cases isPart
          exact found_of_unmarked safe (unmarked_of_clear makes clears)
      | step clears leaves =>
          have unmarked := unmarked_of_clear makes clears
          rcases leaves.append with within | ⟨replaced, replaces, last⟩
          · exact found_of_unmarked safe (unmarked_of_leaves unmarked within)
          · have finishes : ∀ {marked},
                Step.apply replaced (.createFile (area.folder guid ++ [markerName])) = .ok marked →
                  area.Found guid entity files marked := by
              intro marked marks
              have saves : area.save guid entity files = (.ok (), marked) :=
                save_eq_ok.mpr ⟨_, _, _, safe, makes, clears, replaces, marks⟩
              obtain ⟨contains, load⟩ := contains_and_load_of_save readable saves
              exact .after saves contains load
            cases last with
            | stopped =>
                exact found_of_unmarked safe
                  (unmarked_of_leaves unmarked (Files.leaves_of_perform replaces))
            | inside isPart marks =>
                cases isPart
                exact finishes marks
            | step marks leaves =>
                rw [leaves.nil]
                exact finishes marks

/-- Wherever a save is interrupted, the guid is found as it was before, or not at all, or as it is
to be; and the next save that succeeds is found, whatever has been left. -/
theorem found_after_interruption (area : Area) (guid : Guid) (entity : Entity) (files : Files)
    (begins : area.contains guid files = .ok false ∨ ∃ old, area.load guid none files = .ok old)
    (readable : Readable entity) :
    ∃ steps, area.saveSteps guid entity = .ok steps ∧
      files.Leaves steps (area.save guid entity files).2 ∧
      (∀ changed, area.save guid entity files = (.ok (), changed) →
        area.contains guid changed = .ok true ∧ area.load guid none changed = .ok entity) ∧
      ∀ left, files.Leaves steps left →
        area.Found guid entity files left ∧
        ∀ next changed, Readable next → area.save guid next left = (.ok (), changed) →
          area.contains guid changed = .ok true ∧ area.load guid none changed = .ok next := by
  have safe := isSafe_of_begins begins
  have listed : area.saveSteps guid entity = .ok _ := saveSteps_of_isSafe safe
  refine ⟨_, listed, ?_, fun _ => contains_and_load_of_save readable, fun left leaves =>
    ⟨found_of_leaves readable begins listed leaves, fun _ _ => contains_and_load_of_save⟩⟩
  rw [save, listed]
  exact Files.leaves_perform files _

def ordered : Area := Store.overTwoAreas.ordered

def withVertices : Files := (ordered.save ⟨"entity"⟩ Store.vertices Store.twoAreas).2

def loop : Entity := .edgeBundle ⟨[0], [0], [7]⟩

theorem found_after_overwriting :
    ordered.load ⟨"entity"⟩ none withVertices = .ok Store.vertices ∧ Readable loop ∧
      (∃ left, ordered.save ⟨"entity"⟩ loop withVertices = (.ok (), left) ∧
        ordered.load ⟨"entity"⟩ none left = .ok loop) ∧
      ordered.Found ⟨"entity"⟩ loop withVertices
        (ordered.save ⟨"entity"⟩ loop withVertices).2 := by
  have loaded : ordered.load ⟨"entity"⟩ none withVertices = .ok Store.vertices := by
    decide +kernel
  have readable : Readable loop :=
    ⟨by decide, by decide +kernel, Entity.restorable_of_not_scalar rfl,
      Entity.numbersReadBack_of_not_scalar rfl⟩
  have ends : (ordered.save ⟨"entity"⟩ loop withVertices).1 = .ok () := by decide +kernel
  have saves : ordered.save ⟨"entity"⟩ loop withVertices
      = (.ok (), (ordered.save ⟨"entity"⟩ loop withVertices).2) := Prod.ext ends rfl
  obtain ⟨steps, _, leaves, finished, interrupted⟩ :=
    found_after_interruption ordered ⟨"entity"⟩ loop withVertices (.inr ⟨_, loaded⟩) readable
  exact ⟨loaded, readable, ⟨_, saves, (finished _ saves).2⟩, (interrupted _ leaves).1⟩

def blocked : Files := Store.twoAreas.put ["ordered", "blocked"] (.file .empty)

def nested : Nat → Json
  | 0 => .null
  | depth + 1 => .array [nested depth]

theorem nested_wellFormed (depth : Nat) : (nested depth).WellFormed := by
  induction depth with
  | zero => trivial
  | succ depth ih => exact ⟨ih, trivial⟩

theorem nested_numbersReadBack (depth : Nat) : (nested depth).NumbersReadBack := by
  induction depth with
  | zero => trivial
  | succ depth ih => exact ⟨ih, trivial⟩

/-- A double of seventeen digits whose text is read as the next one. -/
def uneven : Double := ⟨0x40499FC44F1B2F60⟩

theorem not_found_of_contains_eq_error {error : EngineError}
    (fails : area.contains guid left = .error error) : ¬ area.Found guid entity files left := by
  rintro (⟨_, _, _, contains, _⟩ | ⟨contains, _⟩ | ⟨_, contains, _⟩) <;>
    cases fails.symm.trans contains

/-- The entity is marked as saved, and yet something else is loaded. -/
theorem not_found_of_load_ne (begins : area.contains guid files = .ok false)
    (saves : area.save guid entity files = (.ok (), changed))
    (other : area.load guid none changed ≠ .ok entity) :
    ¬ area.Found guid entity files changed := by
  rintro (⟨_, loaded, _, _, _⟩ | ⟨unmarked, _⟩ | ⟨_, _, loaded⟩)
  · cases begins.symm.trans (load_eq_ok.mp loaded).1
  · cases (data_of_save saves).1.symm.trans unmarked
  · exact other loaded

theorem load_ne_of_deep {value : Json} (wellFormed : value.WellFormed)
    (numbers : value.NumbersReadBack) (deep : Json.nestingLimit < value.depth)
    (fits : (Entity.scalar value).encode.length ≤ Format.sizeLimit)
    (saves : area.save guid (.scalar value) files = (.ok (), changed)) :
    area.load guid none changed ≠ .ok (.scalar value) := by
  intro loaded
  obtain ⟨_, content, found, decoded⟩ := load_eq_ok.mp loaded
  cases (data_of_save saves).2.symm.trans found
  obtain ⟨_, _, decoded⟩ := Result.bind_eq_ok.mp decoded
  obtain ⟨_, _, decoded⟩ := Result.bind_eq_ok.mp decoded
  have refused := Entity.decode_encode_of_deep wellFormed numbers deep fits
  simp only [Content.toList, Content.ofBytes, List.replicate_zero, List.append_nil] at decoded
  cases decoded.symm.trans refused

/-- Where a file has the name of a guid, it cannot even be asked whether the guid is stored. A
scalar that nests too deep is stored and does not come back, and one whose text is rounded on the
way comes back as another. -/
theorem not_found_blocked_deep_nor_uneven :
    (blocked.node? (ordered.folder ⟨"blocked"⟩ ++ [markerName]) = none ∧
      Readable Store.vertices ∧
      ¬ ordered.Found ⟨"blocked"⟩ Store.vertices blocked
        (ordered.save ⟨"blocked"⟩ Store.vertices blocked).2) ∧
    (ordered.contains ⟨"deep"⟩ Store.twoAreas = .ok false ∧
      (Entity.scalar (nested 128)).validate = .ok () ∧
      (Entity.scalar (nested 128)).encode.length ≤ Format.sizeLimit ∧
      (Entity.scalar (nested 128)).NumbersReadBack ∧
      (ordered.save ⟨"deep"⟩ (.scalar (nested 128)) Store.twoAreas).1 = .ok () ∧
      ¬ ordered.Found ⟨"deep"⟩ (.scalar (nested 128)) Store.twoAreas
        (ordered.save ⟨"deep"⟩ (.scalar (nested 128)) Store.twoAreas).2) ∧
    ordered.contains ⟨"uneven"⟩ Store.twoAreas = .ok false ∧
      (Entity.scalar (.ofDouble uneven)).validate = .ok () ∧
      (Entity.scalar (.ofDouble uneven)).encode.length ≤ Format.sizeLimit ∧
      (Entity.scalar (.ofDouble uneven)).Restorable ∧
      (ordered.save ⟨"uneven"⟩ (.scalar (.ofDouble uneven)) Store.twoAreas).1 = .ok () ∧
      ¬ ordered.Found ⟨"uneven"⟩ (.scalar (.ofDouble uneven)) Store.twoAreas
        (ordered.save ⟨"uneven"⟩ (.scalar (.ofDouble uneven)) Store.twoAreas).2 := by
  have inTheWay : ordered.contains ⟨"blocked"⟩
      (ordered.save ⟨"blocked"⟩ Store.vertices blocked).2
        = .error (.io "Not a directory (os error 20)") := by
    decide +kernel
  have readable : Readable Store.vertices :=
    ⟨by decide, by decide +kernel, Entity.restorable_of_not_scalar rfl,
      Entity.numbersReadBack_of_not_scalar rfl⟩
  have begins : ordered.contains ⟨"deep"⟩ Store.twoAreas = .ok false := by decide +kernel
  have fits : (Entity.scalar (nested 128)).encode.length ≤ Format.sizeLimit := by decide +kernel
  have ends : (ordered.save ⟨"deep"⟩ (.scalar (nested 128)) Store.twoAreas).1 = .ok () := by
    decide +kernel
  have deep := load_ne_of_deep (nested_wellFormed 128) (nested_numbersReadBack 128)
    (by decide +kernel) fits (Prod.ext ends rfl)
  have begins' : ordered.contains ⟨"uneven"⟩ Store.twoAreas = .ok false := by decide +kernel
  have ends' : (ordered.save ⟨"uneven"⟩ (.scalar (.ofDouble uneven)) Store.twoAreas).1 = .ok () := by
    decide +kernel
  have loaded : ordered.load ⟨"uneven"⟩ none
      (ordered.save ⟨"uneven"⟩ (.scalar (.ofDouble uneven)) Store.twoAreas).2
        = .ok (.scalar (.ofDouble ⟨0x40499FC44F1B2F61⟩)) := by
    decide +kernel
  have other : ordered.load ⟨"uneven"⟩ none
      (ordered.save ⟨"uneven"⟩ (.scalar (.ofDouble uneven)) Store.twoAreas).2
        ≠ .ok (.scalar (.ofDouble uneven)) := by
    rw [loaded]
    decide
  exact ⟨⟨rfl, readable, not_found_of_contains_eq_error inTheWay⟩,
    ⟨begins, rfl, fits, nested_numbersReadBack 128, ends,
      not_found_of_load_ne begins (Prod.ext ends rfl) deep⟩,
    begins', rfl, by decide +kernel, ⟨trivial, by decide⟩, ends',
      not_found_of_load_ne begins' (Prod.ext ends' rfl) other⟩

end GraphEngine.Area
