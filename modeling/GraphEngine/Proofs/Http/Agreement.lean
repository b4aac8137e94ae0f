import GraphEngine.Proofs.Http.Runs

/-!
Memory and the ordered area agree.

What is resident and can be stored is stored, and reading it from the ordered area changes nothing.
A scalar is never stored, and under its guid there may still be the data of another entity, which
takes its place as soon as it is read.
-/
namespace GraphEngine.Http.Server

variable {server : Server} {start : Store} {requests : List Request} {stored : Memory}

theorem Reached.holds (reached : server.Reached start requests stored)
    (fits : ∀ guid entity, server.HandsOut start requests guid entity →
      entity.encode.length ≤ Format.sizeLimit) :
    start.ordered.Holds (server.after start requests).files stored := by
  have shows := reached.sound.shows
  rw [reached.ordered] at shows
  refine ⟨shows.isOpen, shows.below, fun found => (reached.sound.writable found).1,
    fun found => ?_⟩
  obtain ⟨_, valid, notScalar⟩ := reached.sound.writable found
  exact ⟨notScalar, valid, fits _ _ (reached.origin found)⟩

theorem put_of_resident {store : Store} {guid : Guid} {entity : Entity}
    (resident : store.get? guid = some entity) : store.put guid entity = store := by
  have same : store.memory.insert guid entity = store.memory := by
    refine Std.ExtTreeMap.ext_getElem? fun other => ?_
    rw [Std.ExtTreeMap.getElem?_insert]
    split
    · next equal =>
        rw [← Std.LawfulEqOrd.eq_of_compare equal]
        exact resident.symm
    · rfl
  rw [Store.put, same]

/-- Where all that a run hands out fits into the ordered area, a resident entity that is not a
scalar is the one that is stored under its guid. -/
theorem resident_is_stored (server : Server) (start : Store) (ordered staging : String)
    (files opened : Files) (requests : List Request)
    (opens : Store.openAreas ordered staging files = (.ok start, opened))
    (isEmpty : start.ordered.IsEmpty opened) (apart : start.ordered.Apart start.staging)
    (respects : server.engine.helper.Respects start.ordered)
    (fits : ∀ guid entity, server.HandsOut start requests guid entity →
      entity.encode.length ≤ Format.sizeLimit) :
    ∀ guid entity, (server.after start requests).get? guid = some entity →
      entity.isScalar = false →
        (server.after start requests).isOnDisk guid = .ok true ∧
        (server.after start requests).load guid none = .ok entity ∧
        (server.after start requests).promote guid = .ok (server.after start requests) := by
  intro guid entity resident notScalar
  obtain ⟨noMemory, rfl⟩ := Store.openAreas_ok opens
  obtain ⟨stored, reached⟩ := exists_reached isEmpty noMemory apart respects requests
  have found : stored[guid]? = some entity := reached.sound.agrees guid entity resident notScalar
  have holds := reached.holds fits
  rw [← reached.ordered] at holds
  have held : stored.contains guid = true := by
    rw [Std.ExtTreeMap.contains_eq_isSome_getElem?, found]
    rfl
  have onDisk : (server.after start requests).isOnDisk guid = .ok true := by
    rw [Store.isOnDisk, holds.contains_eq (holds.safe found), held]
  have loaded : (server.after start requests).load guid none = .ok entity :=
    holds.load_of_some found none
  refine ⟨onDisk, loaded, ?_⟩
  rw [Store.promote, loaded]
  exact congrArg Except.ok (put_of_resident resident)

theorem fits_sharedGuid (guid : Guid) (entity : Entity)
    (handsOut : standardServer.HandsOut .overTwoAreas [askFor sharedGuid] guid entity) :
    entity.encode.length ≤ Format.sizeLimit := by
  have small : ∀ output ∈
      (standardServer.engine.compute .overTwoAreas sharedGuid).result.toOption.getD [],
      output.2.encode.length ≤ Format.sizeLimit := by
    decide +kernel
  obtain ⟨before, request, later, text, split, asks, persisted, _, _, _, _, computed, listed, _⟩ :=
    handsOut
  cases before with
  | cons first rest => simp at split
  | nil =>
      obtain ⟨rfl, rfl⟩ := List.cons.inj split
      cases asks_sharedGuid.given.symm.trans asks.given
      rw [after_nil] at computed
      rw [computed] at small
      exact small _ listed

theorem resident_is_stored_people :
    people.isScalar = false ∧ afterSharedGuid.get? ⟨"v"⟩ = some people ∧
      afterSharedGuid.load ⟨"v"⟩ none = .ok people := by
  have resident := seen_sharedGuid.2.1
  exact ⟨rfl, resident, (resident_is_stored standardServer .overTwoAreas "ordered" "staging"
    Store.twoAreas Store.twoAreas [askFor sharedGuid] Store.openAreas_twoAreas
    Store.isEmpty_twoAreas apart_overTwoAreas (respects_standardServer _) fits_sharedGuid
    _ _ resident rfl).2.1⟩

theorem resident_is_not_stored_sharedGuid :
    Registry.standard [] = .ok standardServer.engine.registry ∧
      Store.openAreas "ordered" "staging" Store.twoAreas = (.ok .overTwoAreas, Store.twoAreas) ∧
      Store.overTwoAreas.ordered.IsEmpty Store.twoAreas ∧
      Store.overTwoAreas.ordered.Apart Store.overTwoAreas.staging ∧
      standardServer.engine.helper.Respects Store.overTwoAreas.ordered ∧
      (∀ guid entity, standardServer.HandsOut .overTwoAreas [askFor sharedGuid] guid entity →
        entity.encode.length ≤ Format.sizeLimit) ∧
      afterSharedGuid.get? ⟨"g"⟩ = some greeting ∧
      afterSharedGuid.isOnDisk ⟨"g"⟩ = .ok true ∧
      afterSharedGuid.load ⟨"g"⟩ none = .ok affections ∧ greeting ≠ affections ∧
      (readFromDisk afterSharedGuid ⟨"g"⟩).store.get? ⟨"g"⟩ = some affections := by
  have onDisk : afterSharedGuid.isOnDisk ⟨"g"⟩ = .ok true ∧
      afterSharedGuid.load ⟨"g"⟩ none = .ok affections := by
    rw [afterSharedGuid_eq]
    decide +kernel
  have read : (readFromDisk afterSharedGuid ⟨"g"⟩).store.get? ⟨"g"⟩ = some affections := by
    rw [readFromDisk_of_ok onDisk.2, Store.get?, Store.put]
    exact Std.ExtTreeMap.getElem?_insert_self
  exact ⟨standard_eq_ok, Store.openAreas_twoAreas, Store.isEmpty_twoAreas, apart_overTwoAreas,
    respects_standardServer _, fits_sharedGuid, seen_sharedGuid.1, onDisk.1, onDisk.2,
    by decide, read⟩

end GraphEngine.Http.Server
