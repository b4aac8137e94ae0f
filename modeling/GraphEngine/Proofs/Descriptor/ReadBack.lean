import GraphEngine.Engine
import GraphEngine.Proofs.Entity.JsonForm
import GraphEngine.Proofs.Maps

/-!
A descriptor is read back from its JSON.

The data of the operation stand two containers deep, so a descriptor whose numbers are read back comes
back just when the data leave room for that. What has been read does, and the engine cannot tell the
text that is written of it from the one that was read.
-/
namespace GraphEngine

/-- Fields whose names are known, each given once, are found as they were written. -/
theorem Json.Tree.fields?_memberTrees {names : List String} {members : List (String × Json)}
    (known : ∀ member ∈ members, names.contains member.1 = true)
    (distinct : (members.map Prod.fst).Nodup) :
    (Tree.object (memberTrees members) true).fields? names
      = some (members.map fun member => (member.1, member.2.toTree)) := by
  have all : (members.map fun member => (member.1, member.2.toTree)).filter
      (fun member => names.contains member.1)
        = members.map fun member => (member.1, member.2.toTree) := by
    refine List.filter_eq_self.mpr fun member listed => ?_
    obtain ⟨written, isMember, rfl⟩ := List.mem_map.mp listed
    exact known written isMember
  have sameNames : (members.map fun member => (member.1, member.2.toTree)).map Prod.fst
      = members.map Prod.fst := by
    rw [List.map_map]
    rfl
  simp only [Tree.fields?, members?_memberTrees, Option.bind_eq_bind, Option.bind_some, all,
    sameNames, if_pos distinct]

namespace Descriptor

variable {descriptor : Descriptor} {text : String}

theorem slots?_slotsJson (slots : Slots) : slots? (slotsJson slots).toTree = some slots := by
  have reads : (slots.toList.map fun slot => (slot.1, (Json.string slot.2.text).toTree)).mapM
      (fun member => member.2.text?.map fun text => (member.1, Guid.mk text))
        = some slots.toList := by
    have each := Json.mapM_guard
      (fun member : String × Json.Tree => member.2.text?.map fun text => (member.1, Guid.mk text))
      (fun slot : String × Guid => (slot.1, (Json.string slot.2.text).toTree)) (fun _ => true)
      fun slot (_ : slot ∈ slots.toList) => rfl
    rw [each]
    simp [Option.guard]
  simp only [slots?, slotsJson, Json.toTree, Json.members?_memberTrees, List.map_map,
    Option.bind_eq_bind, Option.bind_some]
  rw [show ((fun member : String × Json => (member.1, member.2.toTree)) ∘
    fun slot : String × Guid => (slot.1, Json.string slot.2.text)) =
      fun slot => (slot.1, (Json.string slot.2.text).toTree) from rfl, reads]
  exact congrArg some (Maps.ofList_toList slots)

theorem operation?_toTree (className : String) {data : Json} (wellFormed : data.WellFormed)
    (numbers : data.NumbersReadBack) :
    operation? (Json.object [("Class", .string className), ("Data", data)]).toTree
      = if data.depth ≤ 125 then some (className, data) else none := by
  have fields : (Json.object [("Class", .string className), ("Data", data)]).toTree.fields?
      ["Class", "Data"] = some [("Class", .string (some className)), ("Data", data.toTree)] :=
    Json.Tree.fields?_memberTrees (by simp) (by simp)
  have read : data.toTree.toJson? (Json.nestingLimit - 2)
      = if data.depth ≤ 125 then some data else none :=
    Json.toJson?_toTree wellFormed numbers 125
  have className? : [("Class", Json.Tree.string (some className)), ("Data", data.toTree)].lookup
      "Class" = some (.string (some className)) := rfl
  have data? : [("Class", Json.Tree.string (some className)), ("Data", data.toTree)].lookup
      "Data" = some data.toTree := rfl
  simp only [operation?, fields, className?, data?, read, Json.Tree.text?, Option.bind_eq_bind,
    Option.bind_some]
  split <;> rfl

theorem ofTree?_toTree (wellFormed : descriptor.data.WellFormed)
    (numbers : descriptor.data.NumbersReadBack) :
    ofTree? descriptor.toJson.toTree
      = if descriptor.data.depth ≤ 125 then some descriptor else none := by
  have operation := operation?_toTree descriptor.className wellFormed numbers
  have fields : descriptor.toJson.toTree.fields? ["Operation", "Inputs", "Outputs"]
      = some [("Operation", (Json.object [("Class", .string descriptor.className),
            ("Data", descriptor.data)]).toTree),
          ("Inputs", (slotsJson descriptor.inputs).toTree),
          ("Outputs", (slotsJson descriptor.outputs).toTree)] :=
    Json.Tree.fields?_memberTrees (by simp) (by simp)
  simp only [ofTree?, fields, List.lookup, Option.bind_eq_bind, Option.bind_some, beq_self_eq_true]
  rw [operation]
  by_cases nests : descriptor.data.depth ≤ 125
  · simp [nests, slots?_slotsJson]
  · simp [nests]

/-- The text describes what it was written for, unless the data nest too deep. -/
theorem parse_json (wellFormed : descriptor.data.WellFormed)
    (numbers : descriptor.data.NumbersReadBack) :
    parse descriptor.json = if descriptor.data.depth ≤ 125 then .ok descriptor
      else .error (refusal descriptor.json) := by
  rw [parse, json, Json.tree?_compact, Option.bind_some, ofTree?_toTree wellFormed numbers]
  by_cases nests : descriptor.data.depth ≤ 125
  · rw [if_pos nests, if_pos nests]
  · rw [if_neg nests, if_neg nests]

theorem parse_json_of_nestsWithin (nests : descriptor.data.NestsWithin 125)
    (numbers : descriptor.data.NumbersReadBack) : parse descriptor.json = .ok descriptor := by
  rw [parse_json nests.wellFormed numbers, if_pos nests.depth_le]

theorem nestsWithin_of_operation? {tree : Json.Tree} {className : String} {data : Json}
    (read : operation? tree = some (className, data)) : data.NestsWithin 125 := by
  obtain ⟨fields, _, read⟩ := Option.bind_eq_some_iff.mp read
  obtain ⟨first, _, read⟩ := Option.bind_eq_some_iff.mp read
  obtain ⟨_, _, read⟩ := Option.bind_eq_some_iff.mp read
  split at read
  · obtain ⟨_, isData, same⟩ := Option.bind_eq_some_iff.mp read
    cases same
    exact ⟨Json.wellFormed_of_toJson? isData, Json.depth_le_of_toJson? isData⟩
  · cases read
    exact ⟨trivial, Nat.zero_le 125⟩

theorem nestsWithin_of_parse (parses : parse text = .ok descriptor) :
    descriptor.data.NestsWithin 125 := by
  unfold parse at parses
  split at parses
  · next found read =>
      cases parses
      obtain ⟨tree, _, read⟩ := Option.bind_eq_some_iff.mp read
      simp only [ofTree?, Option.bind_eq_bind, Option.bind_eq_some_iff, pure,
        Option.some.injEq] at read
      obtain ⟨fields, _, operation, _, ⟨className, data⟩, isOperation, inputs, _, outputs, _, rfl⟩ :=
        read
      exact nestsWithin_of_operation? isOperation
  · cases parses

end Descriptor

namespace Engine

/-- A call sees of its text only the descriptor. -/
theorem canCompute_congr {text other : String}
    (same : Descriptor.parse text = Descriptor.parse other) (engine : Engine) :
    engine.canCompute text = engine.canCompute other := by
  rw [canCompute, canCompute, same]

theorem compute_congr {text other : String}
    (same : Descriptor.parse text = Descriptor.parse other) (engine : Engine) (store : Store) :
    engine.compute store text = engine.compute store other := by
  have prepared : engine.prepare store text = engine.prepare store other := by
    rw [prepare, prepare, same]
  rw [compute, compute, prepared]

end Engine
end GraphEngine
