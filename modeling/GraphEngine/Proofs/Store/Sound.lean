import GraphEngine.Persistence
import GraphEngine.Proofs.Area.Frame

/-!
Stores that are sound.

What is resident in a sound store is valid and has a safe guid, the same is true of what its ordered
area shows, and of the two a resident entity that can be stored is the stored one. No size is asked
of the entities: one that is too large to come back still shows in the area.
-/
namespace GraphEngine.Store

variable {store : Store} {stored memory : Memory} {guid : Guid} {entity : Entity}

theorem persist_of_shows (shows : store.ordered.Shows store.files stored)
    (safe : guid.isSafe = true) (notScalar : entity.isScalar = false) :
    ∃ files, store.persistJob (guid, entity) = { store with files } ∧
      store.ordered.Shows files (stored.insert guid entity) := by
  obtain ⟨files, saves, update⟩ := Area.save_of_ready entity safe shows.ready
  refine ⟨files, ?_, shows.insert update⟩
  simp [persistJob, persist, notScalar, save, saves, afterwards]

theorem persistAll_of_shows (shows : store.ordered.Shows store.files stored) {jobs : List Job}
    (writable : ∀ job ∈ jobs, job.1.isSafe = true ∧ job.2.isScalar = false) :
    ∃ files, store.persistAll jobs = { store with files } ∧
      store.ordered.Shows files (stored.insertMany jobs) := by
  induction jobs generalizing store stored with
  | nil => exact ⟨store.files, rfl, shows⟩
  | cons job rest ih =>
      obtain ⟨guid, entity⟩ := job
      obtain ⟨safe, notScalar⟩ := writable (guid, entity) List.mem_cons_self
      obtain ⟨between, persists, inserted⟩ := persist_of_shows shows safe notScalar
      obtain ⟨files, others, shows⟩ := @ih { store with files := between } _ inserted
        fun other inRest => writable other (List.mem_cons_of_mem _ inRest)
      rw [Std.ExtTreeMap.insertMany_cons]
      refine ⟨files, ?_, shows⟩
      rw [persistAll, List.foldl_cons, persists]
      exact others

/-- Of what is resident, all but the scalars is stored. -/
def Agrees (memory stored : Memory) : Prop :=
  ∀ (guid : Guid) (entity : Entity), memory[guid]? = some entity → entity.isScalar = false →
    stored[guid]? = some entity

namespace Agrees

theorem insert (h : Agrees memory stored) (guid : Guid) (entity : Entity) :
    Agrees (memory.insert guid entity)
      (if entity.isScalar then stored else stored.insert guid entity) := by
  intro other resident found notScalar
  rw [Std.ExtTreeMap.getElem?_insert] at found
  split at found
  · next same =>
      cases found
      rw [if_neg (by simp [notScalar]), Std.ExtTreeMap.getElem?_insert, if_pos same]
  · next different =>
      split
      · exact h other resident found notScalar
      · rw [Std.ExtTreeMap.getElem?_insert, if_neg different]
        exact h other resident found notScalar

theorem insertMany (h : Agrees memory stored) (outputs : List (Guid × Entity)) :
    Agrees (memory.insertMany outputs)
      (stored.insertMany (outputs.filter fun output => ! output.2.isScalar)) := by
  induction outputs generalizing memory stored with
  | nil => exact h
  | cons output rest ih =>
      obtain ⟨guid, entity⟩ := output
      have later := ih (h.insert guid entity)
      rw [Std.ExtTreeMap.insertMany_cons, List.filter_cons]
      cases scalar : entity.isScalar with
      | true => simpa [scalar] using later
      | false => simpa [scalar, Std.ExtTreeMap.insertMany_cons] using later

end Agrees

/-- The store together with what its ordered area shows. -/
structure Sound (store : Store) (stored : Memory) : Prop where
  shows : store.ordered.Shows store.files stored
  resident : ∀ {guid : Guid} {entity : Entity}, store.memory[guid]? = some entity →
    guid.isSafe = true ∧ entity.validate = .ok ()
  writable : ∀ {guid : Guid} {entity : Entity}, stored[guid]? = some entity →
    guid.isSafe = true ∧ entity.validate = .ok () ∧ entity.isScalar = false
  agrees : Agrees store.memory stored

namespace Sound

theorem of_isEmpty (isEmpty : store.ordered.IsEmpty store.files) (noMemory : store.memory = ∅) :
    store.Sound ∅ := by
  refine ⟨.of_isEmpty isEmpty, ?_, by simp, ?_⟩ <;> simp [noMemory, Agrees]

theorem spared (h : store.Sound stored) {files : Files}
    (spared : store.ordered.Spared store.files files) : Sound { store with files } stored :=
  ⟨spared.shows h.shows, h.resident, h.writable, h.agrees⟩

/-- The outputs come into memory, and those that are no scalars into the ordered area. -/
theorem merge (h : store.Sound stored) {outputs : List (Guid × Entity)}
    (valid : ∀ output ∈ outputs, output.1.isSafe = true ∧ output.2.validate = .ok ()) :
    ∃ files, (store.putAll outputs).persistAll (outputs.filter fun output => ! output.2.isScalar)
        = { store.putAll outputs with files } ∧
      Sound { store.putAll outputs with files }
        (stored.insertMany (outputs.filter fun output => ! output.2.isScalar)) := by
  have persisted : ∀ output ∈ outputs.filter fun output => ! output.2.isScalar,
      output.1.isSafe = true ∧ output.2.validate = .ok () ∧ output.2.isScalar = false := by
    intro output listed
    obtain ⟨listed, notScalar⟩ := List.mem_filter.mp listed
    exact ⟨(valid output listed).1, (valid output listed).2, by simpa using notScalar⟩
  obtain ⟨files, persists, shows⟩ := (store.putAll outputs).persistAll_of_shows h.shows
    fun output listed => ⟨(persisted output listed).1, (persisted output listed).2.2⟩
  refine ⟨files, persists, shows, ?_, ?_, h.agrees.insertMany outputs⟩
  · exact Maps.all_insertMany
      (P := fun (guid : Guid) (entity : Entity) => guid.isSafe = true ∧ entity.validate = .ok ())
      valid h.resident
  · exact Maps.all_insertMany
      (P := fun (guid : Guid) (entity : Entity) =>
        guid.isSafe = true ∧ entity.validate = .ok () ∧ entity.isScalar = false)
      persisted h.writable

/-- What comes back is what is stored, since what is too large does not come back at all. -/
theorem stored_of_load (h : store.Sound stored) (loaded : store.load guid none = .ok entity) :
    stored[guid]? = some entity := by
  obtain ⟨_, content, data, decoded⟩ := Area.load_eq_ok.mp loaded
  rw [h.shows.inFolder, Area.image] at data
  cases found : stored[guid]? with
  | none => simp [found] at data
  | some held =>
      have written : content = .ofBytes held.encode := by
        simpa [found, Area.dataName, Area.markerName, eq_comm] using data
      subst written
      obtain ⟨_, valid, notScalar⟩ := h.writable found
      obtain ⟨_, fits, _⟩ := Result.bind_eq_ok.mp decoded
      have readable : Area.Readable held := by
        refine ⟨valid, ?_, Entity.restorable_of_not_scalar notScalar,
          Entity.numbersReadBack_of_not_scalar notScalar⟩
        unfold Entity.checkSize at fits
        split at fits
        · assumption
        · cases fits
      rw [Area.decodeAs_encode readable none] at decoded
      cases decoded
      rfl

theorem promote (h : store.Sound stored) (loaded : store.load guid none = .ok entity) :
    (store.put guid entity).Sound stored := by
  have found := h.stored_of_load loaded
  obtain ⟨safe, valid, notScalar⟩ := h.writable found
  refine ⟨h.shows, ?_, h.writable, fun other resident held notScalar => ?_⟩
  · exact Maps.all_insert
      (P := fun (guid : Guid) (entity : Entity) => guid.isSafe = true ∧ entity.validate = .ok ())
      ⟨safe, valid⟩ h.resident
  · exact Maps.all_insert (P := fun guid entity => entity.isScalar = false →
      stored[guid]? = some entity) (fun _ => found) (h.agrees _ _) held notScalar

end Sound
end GraphEngine.Store
