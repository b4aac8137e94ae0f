import GraphEngine.Proofs.Engine.Derivation
import GraphEngine.Proofs.Engine.Gate
import GraphEngine.Proofs.Session.Exchanges
import GraphEngine.Proofs.Store.Opening

/-!
What a computation changes.

A computation that fails, at whatever stage, leaves the memory as it was. One that succeeds writes
its produced slots into it in the order of their names, and nothing else.
-/
namespace GraphEngine

namespace Engine

variable {engine : Engine} {store : Store} {text : String} {slots : Slots} {outputs : Outputs}

/-- The produced slots with their guids, in the order of the names. -/
def boundSlots (slots : Slots) (outputs : Outputs) : List (String × Guid × Entity) :=
  outputs.toList.filterMap fun (name, entity) => slots[name]?.map fun guid => (name, guid, entity)

theorem bindOutputs_eq (slots : Slots) (outputs : Outputs) :
    bindOutputs slots outputs = (boundSlots slots outputs).map Prod.snd := by
  simp only [bindOutputs, boundSlots, List.map_filterMap, Option.map_map]
  rfl

theorem mem_boundSlots {name : String} {guid : Guid} {entity : Entity} :
    (name, guid, entity) ∈ boundSlots slots outputs ↔
      slots[name]? = some guid ∧ outputs[name]? = some entity := by
  simp only [boundSlots, List.mem_filterMap, Option.map_eq_some_iff, Prod.exists, Prod.mk.injEq]
  constructor
  · rintro ⟨_, _, listed, _, bound, rfl, rfl, rfl⟩
    exact ⟨bound, Std.ExtTreeMap.mem_toList_iff_getElem?_eq_some.mp listed⟩
  · rintro ⟨bound, produced⟩
    exact ⟨_, _, Std.ExtTreeMap.mem_toList_iff_getElem?_eq_some.mpr produced, _, bound, rfl, rfl,
      rfl⟩

theorem boundSlots_ordered :
    (boundSlots slots outputs).Pairwise fun slot later =>
      Utf8.encode slot.1 < Utf8.encode later.1 := by
  refine List.Pairwise.filterMap _ ?_ Std.ExtTreeMap.ordered_keys_toList
  rintro ⟨name, entity⟩ ⟨later, other⟩ order slot bound slot' bound'
  obtain ⟨guid, _, rfl⟩ := Option.map_eq_some_iff.mp bound
  obtain ⟨guid', _, rfl⟩ := Option.map_eq_some_iff.mp bound'
  exact Utf8.compare_eq_lt.mp order

theorem map_boundSlots (declared : ∀ name ∈ outputs, name ∈ slots) :
    (boundSlots slots outputs).map (fun slot => (slot.1, slot.2.2)) = outputs.toList := by
  have bound : ∀ entry ∈ outputs.toList,
      (slots[entry.1]?.map fun guid => (entry.1, guid, entry.2)).map
        (fun slot => (slot.1, slot.2.2)) = some entry := by
    rintro ⟨name, entity⟩ listed
    have produced := Std.ExtTreeMap.mem_toList_iff_getElem?_eq_some.mp listed
    obtain ⟨guid, found⟩ :=
      Maps.mem_iff_exists.mp (declared name (Maps.mem_iff_exists.mpr ⟨entity, produced⟩))
    simp only [found, Option.map_some]
  rw [boundSlots, List.map_filterMap, List.filterMap_congr bound]
  exact List.filterMap_some

/-- What a body that ended well leaves to be merged. -/
structure Produces (engine : Engine) (store : Store) (text : String) (session : Session)
    (progress : Progress) (outputs : Outputs) : Prop where
  parses : Descriptor.parse text = .ok session.descriptor
  runs : ∃ body, engine.prepare store text = .ok (body, session) ∧
    session.run body ⟨∅, store.files, []⟩ = (.ok (), progress)
  derives : deriveIdSets session.descriptor.outputs progress.outputs = .ok outputs

theorem finish_eq_ok {bound : List (Guid × Entity)} (h : finish slots outputs = .ok bound) :
    ∃ derived, deriveIdSets slots outputs = .ok derived ∧ bound = bindOutputs slots derived ∧
      ∀ output ∈ bound, output.2.validate = .ok () := by
  unfold finish at h
  obtain ⟨derived, derives, h⟩ := Result.bind_eq_ok.mp h
  obtain ⟨_, valid, h⟩ := Result.bind_eq_ok.mp h
  cases h
  exact ⟨derived, derives, rfl, Result.forM_eq_ok.mp valid⟩

theorem compute_eq_ok {persisted : List (Guid × Entity)}
    (h : (engine.compute store text).result = .ok persisted) :
    ∃ session progress outputs, engine.Produces store text session progress outputs ∧
      (∀ bound ∈ bindOutputs session.descriptor.outputs outputs, bound.2.validate = .ok ()) ∧
      persisted = (bindOutputs session.descriptor.outputs outputs).filter
        (fun bound => ! bound.2.isScalar) ∧
      (engine.compute store text).store.memory
        = store.memory.insertMany (bindOutputs session.descriptor.outputs outputs) := by
  unfold compute at h ⊢
  cases prepared : engine.prepare store text with
  | error error =>
      rw [prepared] at h
      cases h
  | ok passed =>
      obtain ⟨body, session⟩ := passed
      simp only [prepared] at h ⊢
      cases ran : session.run body ⟨∅, store.files, []⟩ with
      | mk result progress =>
          simp only [ran] at h ⊢
          split at h
          · cases h
          · next bound finished =>
              cases h
              obtain ⟨_, ended, finishes⟩ := Result.bind_eq_ok.mp finished
              cases ended
              obtain ⟨outputs, derives, rfl, valid⟩ := finish_eq_ok finishes
              have parses := (admits_of_prepare prepared).parses
              exact ⟨session, progress, outputs, ⟨parses, ⟨body, prepared, ran⟩, derives⟩, valid,
                rfl, rfl⟩

/-- The produced slots, each with its guid, and what merging them makes of a memory. -/
structure Merges (declared : Slots) (outputs : Outputs) (slots : List (String × Guid × Entity))
    (before after : Memory) (persisted : List (Guid × Entity)) : Prop where
  produced : slots.map (fun slot => (slot.1, slot.2.2)) = outputs.toList
  inOrder : slots.Pairwise fun slot later => Utf8.encode slot.1 < Utf8.encode later.1
  bound : ∀ slot ∈ slots, declared[slot.1]? = some slot.2.1 ∧ slot.2.1.isSafe = true ∧
    slot.2.2.validate = .ok ()
  /-- Of two slots with one guid the later one stays. -/
  memory : after = slots.foldl (fun memory slot => memory.insert slot.2.1 slot.2.2) before
  others : ∀ {guid : Guid}, (∀ name : String, declared[name]? ≠ some guid) →
    after[guid]? = before[guid]?
  persisted : persisted = (slots.map Prod.snd).filter fun output => ! output.2.isScalar

theorem mem_slots_of_produces {session : Session} {progress : Progress}
    (h : engine.Produces store text session progress outputs) :
    ∀ name ∈ outputs, name ∈ session.descriptor.outputs := by
  obtain ⟨body, _, ran⟩ := h.runs
  refine mem_slots_of_mem_derived h.derives ?_
  have declared : ∀ name ∈ (session.run body ⟨∅, store.files, []⟩).2.outputs,
      name ∈ session.descriptor.outputs := Session.declared_run (by simp)
  rwa [ran] at declared

theorem merges_of_compute {persisted : List (Guid × Entity)}
    (h : (engine.compute store text).result = .ok persisted) :
    ∃ session progress outputs slots, engine.Produces store text session progress outputs ∧
      Merges session.descriptor.outputs outputs slots store.memory
        (engine.compute store text).store.memory persisted := by
  obtain ⟨session, progress, outputs, produces, valid, rfl, memory⟩ := compute_eq_ok h
  obtain ⟨body, prepared, _⟩ := produces.runs
  refine ⟨session, progress, outputs, boundSlots session.descriptor.outputs outputs, produces,
    map_boundSlots (mem_slots_of_produces produces), boundSlots_ordered, ?_, ?_, ?_, ?_⟩
  · rintro ⟨name, guid, entity⟩ listed
    have declared := (mem_boundSlots.mp listed).1
    refine ⟨declared, (admits_of_prepare prepared).safe declared, valid (guid, entity) ?_⟩
    rw [bindOutputs_eq]
    exact List.mem_map_of_mem listed
  · rw [memory, bindOutputs_eq, Std.ExtTreeMap.insertMany_list_eq_foldl, List.foldl_map]
  · intro guid undeclared
    rw [memory, Std.ExtTreeMap.getElem?_insertMany_list_of_contains_eq_false]
    refine Bool.eq_false_iff.mpr fun listed => ?_
    obtain ⟨⟨_, entity⟩, isBound, rfl⟩ := List.exists_of_mem_map (List.contains_iff_mem.mp listed)
    rw [bindOutputs_eq] at isBound
    obtain ⟨⟨name, _⟩, slot, rfl⟩ := List.exists_of_mem_map isBound
    exact undeclared name (mem_boundSlots.mp slot).1
  · rw [bindOutputs_eq]

/-- A computation that succeeds hands the entity back under the guid, to which a slot with this
output is bound. -/
def Yields (engine : Engine) (store : Store) (text : String) (guid : Guid) (entity : Entity) :
    Prop :=
  ∃ persisted session progress outputs name,
    (engine.compute store text).result = .ok persisted ∧ (guid, entity) ∈ persisted ∧
      engine.Produces store text session progress outputs ∧
      session.descriptor.outputs[(name : String)]? = some guid ∧ outputs[name]? = some entity

theorem areas_compute (engine : Engine) (store : Store) (text : String) :
    (engine.compute store text).store.ordered = store.ordered ∧
      (engine.compute store text).store.staging = store.staging := by
  unfold compute
  split
  · exact ⟨rfl, rfl⟩
  · dsimp only
    split <;> exact ⟨rfl, rfl⟩

theorem store_of_compute {persisted : List (Guid × Entity)}
    (h : (engine.compute store text).result = .ok persisted) :
    ∃ bound : List (Guid × Entity),
      (∀ output ∈ bound, output.1.isSafe = true ∧ output.2.validate = .ok ()) ∧
      (∀ output ∈ persisted, engine.Yields store text output.1 output.2) ∧
      (engine.compute store text).store
        = Store.putAll { store with files := (engine.compute store text).store.files } bound ∧
      persisted = bound.filter fun output => ! output.2.isScalar := by
  obtain ⟨session, progress, outputs, slots, produces, merges⟩ := merges_of_compute h
  refine ⟨slots.map Prod.snd,
    List.forall_mem_map.mpr fun slot listed => (merges.bound slot listed).2,
    fun output returned => ?_, ?_, merges.persisted⟩
  · have kept := returned
    rw [merges.persisted] at kept
    obtain ⟨slot, listed, rfl⟩ := List.mem_map.mp (List.mem_filter.mp kept).1
    have produced : (slot.1, slot.2.2) ∈ outputs.toList := by
      rw [← merges.produced]
      exact List.mem_map_of_mem listed
    exact ⟨persisted, session, progress, outputs, slot.1, h, returned, produces,
      (merges.bound slot listed).1, Std.ExtTreeMap.mem_toList_iff_getElem?_eq_some.mp produced⟩
  · have memory := merges.memory
    obtain ⟨ordered, staging⟩ := areas_compute engine store text
    cases computed : (engine.compute store text).store
    rw [computed] at memory ordered staging
    simp only at memory ordered staging
    rw [memory, ordered, staging, Store.putAll, Std.ExtTreeMap.insertMany_list_eq_foldl,
      List.foldl_map]

theorem memory_of_error {error : EngineError}
    (h : (engine.compute store text).result = .error error) :
    (engine.compute store text).store.memory = store.memory := by
  unfold compute at h ⊢
  split
  · rfl
  · next passed =>
      simp only [passed] at h
      split at h
      · next finished =>
          simp only [finished]
      · cases h

theorem store_of_error {error : EngineError}
    (h : (engine.compute store text).result = .error error) :
    (engine.compute store text).store
      = { store with files := (engine.compute store text).store.files } := by
  have memory := memory_of_error h
  obtain ⟨ordered, staging⟩ := areas_compute engine store text
  cases computed : (engine.compute store text).store
  rw [computed] at memory ordered staging
  simp only at memory ordered staging
  rw [memory, ordered, staging]

theorem node?_compute {place : Path} (apart : store.ordered.Apart store.staging)
    (spares : engine.helper.Spares store.ordered) (inside : store.ordered.path <+: place) :
    (engine.compute store text).store.files.node? place = store.files.node? place := by
  unfold compute
  split
  · rfl
  · next body session prepared =>
      have admits := admits_of_prepare prepared
      have same : (session.run body ⟨∅, store.files, []⟩).2.files.node? place
          = store.files.node? place :=
        Session.node?_run (admits.staging ▸ apart) (admits.helper ▸ spares) inside
      dsimp only
      split <;> exact same

theorem spared_compute (text : String) (apart : store.ordered.Apart store.staging)
    (respects : engine.helper.Respects store.ordered)
    (isOpen : store.files.IsOpen store.ordered.path) :
    store.ordered.Spared store.files (engine.compute store text).store.files := by
  unfold compute
  split
  · exact .refl _
  · next body session prepared =>
      have admits := admits_of_prepare prepared
      have spared : store.ordered.Spared store.files
          (session.run body ⟨∅, store.files, []⟩).2.files :=
        Session.spared_run (admits.staging ▸ apart) (admits.helper ▸ respects)
          (show store.files.IsOpen _ from isOpen)
      dsimp only
      split <;> exact spared

/-- What passes between the body and its session in a computation; nothing does where the body is
not run. -/
def exchanges (engine : Engine) (store : Store) (text : String) : List Session.Exchange :=
  match engine.prepare store text with
  | .error _ => []
  | .ok (body, session) => session.exchanges body ⟨∅, store.files, []⟩

/-- An entity that is shown is the one that the store holds for the slot. -/
def ShowsStore (store : Store) (inputs : Slots) : Session.Exchange → Prop
  | ⟨.input name, reply⟩ =>
      match (reply : Except EngineError (Guid × Entity)) with
      | .ok (guid, entity) => inputs[name]? = some guid ∧ store.get? guid = some entity
      | .error error => inputs[name]? = none ∧ error = .unknownInput name
  | ⟨.stage name, reply⟩ =>
      ∀ staged, reply = .ok staged →
        ∃ guid entity, inputs[name]? = some guid ∧ store.get? guid = some entity ∧
          staged.text = entity.json
  | _ => True

theorem showsStore_input {body : Program Unit} {session : Session}
    (admits : engine.Admits store text body session) (name : String) :
    ShowsStore store session.descriptor.inputs ⟨.input name, session.input name⟩ := by
  simp only [ShowsStore, Session.input]
  cases bound : session.inputs[name]? with
  | some input => exact admits.inputs.mp bound
  | none =>
      refine ⟨?_, rfl⟩
      cases declared : session.descriptor.inputs[name]? with
      | none => rfl
      | some guid =>
          obtain ⟨entity, held⟩ := Option.isSome_iff_exists.mp (admits.resident declared)
          cases bound.symm.trans (admits.inputs.mpr ⟨declared, held⟩)

theorem showsStore_stage {body : Program Unit} {session : Session} {files : Files}
    (admits : engine.Admits store text body session) (name : String) :
    ShowsStore store session.descriptor.inputs ⟨.stage name, (session.stage name files).1⟩ := by
  intro staged replied
  have shown := showsStore_input admits name
  simp only [ShowsStore] at shown
  simp only [Session.stage] at replied
  cases input : session.input name with
  | error error =>
      rw [input] at replied
      cases replied
  | ok bound =>
      obtain ⟨guid, entity⟩ := bound
      rw [input] at shown replied
      exact ⟨guid, entity, shown.1, shown.2, Area.text_of_stage replied⟩

theorem showsStore_of_mem_exchanges {descriptor : Descriptor}
    (parses : Descriptor.parse text = .ok descriptor) :
    ∀ exchange ∈ engine.exchanges store text, ShowsStore store descriptor.inputs exchange := by
  intro exchange passed
  unfold exchanges at passed
  split at passed
  · cases passed
  · next body session prepared =>
      have admits := admits_of_prepare prepared
      cases parses.symm.trans admits.parses
      obtain ⟨request, reply⟩ := exchange
      obtain ⟨between, replied⟩ := Session.reply_of_mem_exchanges passed
      have replied : reply = (session.answer between request).1 := replied
      subst replied
      cases request with
      | input name => exact showsStore_input admits name
      | stage name => exact showsStore_stage admits name
      | _ => trivial

/-- All of a computation or nothing of it reaches the memory, and none of it the ordered area. -/
theorem compute_all_or_nothing (engine : Engine) (store : Store) (text : String)
    (apart : store.ordered.Apart store.staging)
    (spares : engine.helper.Spares store.ordered) :
    (∀ place, store.ordered.path <+: place →
      (engine.compute store text).store.files.node? place = store.files.node? place) ∧
    (∀ error, (engine.compute store text).result = .error error →
      (engine.compute store text).store.memory = store.memory) ∧
    (∀ persisted, (engine.compute store text).result = .ok persisted →
      ∃ session progress outputs slots, engine.Produces store text session progress outputs ∧
        Merges session.descriptor.outputs outputs slots store.memory
          (engine.compute store text).store.memory persisted) ∧
    (∀ descriptor, Descriptor.parse text = .ok descriptor →
      ∀ exchange ∈ engine.exchanges store text, ShowsStore store descriptor.inputs exchange) :=
  ⟨fun _ => node?_compute apart spares, fun _ => memory_of_error, fun _ => merges_of_compute,
    fun _ => showsStore_of_mem_exchanges⟩

def withExampleGraph : Engine where
  registry := ⟨.ofList [("ExampleGraph", Operation.ExampleGraph.body)]⟩
  helper := fun files _ => (.finished 0 [] [], files)

def edgesAndIds : String :=
  "\x7b\"Operation\":\x7b\"Class\":\"com.lynxanalytics.biggraph.graph_operations.ExampleGraph\"\x7d,"
    ++ "\"Outputs\":\x7b\"edges\":\"e\",\"edges-idSet\":\"i\"\x7d\x7d"

theorem exists_edgesAndIds :
    ∃ persisted, (withExampleGraph.compute .overTwoAreas edgesAndIds).result = .ok persisted := by
  have ends : (withExampleGraph.compute .overTwoAreas edgesAndIds).result.isOk = true := by
    decide +kernel
  cases computed : (withExampleGraph.compute .overTwoAreas edgesAndIds).result with
  | error error =>
      rw [computed] at ends
      cases ends
  | ok persisted => exact ⟨persisted, rfl⟩

theorem compute_edgesAndIds :
    Store.overTwoAreas.ordered.Apart Store.overTwoAreas.staging ∧
      withExampleGraph.helper.Spares Store.overTwoAreas.ordered ∧
      ∃ persisted session progress outputs slots,
        withExampleGraph.Produces .overTwoAreas edgesAndIds session progress outputs ∧
          Merges session.descriptor.outputs outputs slots Store.overTwoAreas.memory
            (withExampleGraph.compute .overTwoAreas edgesAndIds).store.memory persisted := by
  have apart : Store.overTwoAreas.ordered.Apart Store.overTwoAreas.staging :=
    ⟨by decide, by decide⟩
  have spares : withExampleGraph.helper.Spares Store.overTwoAreas.ordered := fun _ _ _ _ => rfl
  obtain ⟨persisted, computed⟩ := exists_edgesAndIds
  exact ⟨apart, spares, persisted,
    (compute_all_or_nothing _ _ edgesAndIds apart spares).2.2.1 persisted computed⟩

end Engine
end GraphEngine
