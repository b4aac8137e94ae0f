import GraphEngine.Engine
import GraphEngine.Proofs.Maps
import GraphEngine.Proofs.Result

/-!
What is known of a computation once it has passed the gate.
-/
namespace GraphEngine.Engine

variable {engine : Engine} {store : Store} {text : String} {body : Program Unit}
  {session : Session}

/-- The text asks for the body, and the session offers the body what the store holds. -/
structure Admits (engine : Engine) (store : Store) (text : String) (body : Program Unit)
    (session : Session) : Prop where
  parses : Descriptor.parse text = .ok session.descriptor
  operation : engine.operation? session.descriptor = some body
  safe : ∀ {name : String} {guid : Guid}, session.descriptor.outputs[name]? = some guid →
    guid.isSafe = true
  resident : ∀ {name : String} {guid : Guid}, session.descriptor.inputs[name]? = some guid →
    (store.get? guid).isSome = true
  inputs : ∀ {name : String} {guid : Guid} {entity : Entity},
    session.inputs[name]? = some (guid, entity) ↔
      session.descriptor.inputs[name]? = some guid ∧ store.get? guid = some entity
  staging : session.staging = store.staging
  helper : session.helper = engine.helper

theorem check_eq_ok {guid : Guid} : guid.check = .ok () ↔ guid.isSafe = true := by
  unfold Guid.check
  cases guid.isSafe <;> simp

theorem bindInput_eq_ok {slot : String × Guid} {bound : String × Guid × Entity} :
    bindInput store slot = .ok bound ↔
      bound.1 = slot.1 ∧ bound.2.1 = slot.2 ∧ store.get? slot.2 = some bound.2.2 := by
  obtain ⟨name, guid, entity⟩ := bound
  unfold bindInput
  cases store.get? slot.2 with
  | none => simp
  | some found => simp [eq_comm]

theorem admits_of_prepare (h : engine.prepare store text = .ok (body, session)) :
    engine.Admits store text body session := by
  unfold prepare at h
  obtain ⟨descriptor, parses, h⟩ := Result.bind_eq_ok.mp h
  split at h
  · cases h
  · next body operation =>
      obtain ⟨_, checked, h⟩ := Result.bind_eq_ok.mp h
      obtain ⟨inputs, bound, h⟩ := Result.bind_eq_ok.mp h
      cases h
      have names : inputs.map Prod.fst = descriptor.inputs.toList.map Prod.fst :=
        Result.map_of_mapM (fun h => (bindInput_eq_ok.mp h).1) bound
      refine ⟨parses, operation, fun declared => ?_, fun {name guid} declared => ?_,
        fun {name guid entity} => ?_, rfl, rfl⟩
      · exact check_eq_ok.mp (Result.forM_eq_ok.mp checked _ (Maps.mem_values.mpr ⟨_, declared⟩))
      · have listed := Std.ExtTreeMap.mem_toList_iff_getElem?_eq_some.mpr declared
        obtain ⟨_, found⟩ := Result.eq_ok_of_mapM bound listed
        rw [(bindInput_eq_ok.mp found).2.2]
        rfl
      · rw [Maps.getElem?_ofList names, Result.mem_of_mapM bound]
        constructor
        · rintro ⟨⟨_, _⟩, listed, found⟩
          obtain ⟨rfl, rfl, held⟩ := bindInput_eq_ok.mp found
          exact ⟨Std.ExtTreeMap.mem_toList_iff_getElem?_eq_some.mp listed, held⟩
        · rintro ⟨declared, held⟩
          exact ⟨(name, guid), Std.ExtTreeMap.mem_toList_iff_getElem?_eq_some.mpr declared,
            bindInput_eq_ok.mpr ⟨rfl, rfl, held⟩⟩

end GraphEngine.Engine
