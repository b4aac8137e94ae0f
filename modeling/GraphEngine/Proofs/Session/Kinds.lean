import GraphEngine.Proofs.Session.Unaided

/-!
Inputs taken as entities of one kind.

A body takes its inputs one after another, and one of another kind ends it. Up to there it has
handed nothing over, and neither the area for staging nor a helper has taken part.
-/
namespace GraphEngine

namespace Entity

/-- Entities of one kind are let through, and all others are named in the error. -/
structure Discerns {α : Type} (view : Guid → Entity → Except EngineError α) (kind : Kind) :
    Prop where
  own : ∀ {guid entity}, entity.kind = kind → ∃ value, view guid entity = .ok value
  other : ∀ {guid entity}, entity.kind ≠ kind →
    view guid entity = .error (.wrongKind guid kind entity.kind)

theorem discerns_asVertexSet : Discerns (fun guid => asVertexSet guid) .vertexSet := by
  constructor <;> intro guid entity kind <;> cases entity <;> simp_all [asVertexSet, Entity.kind]

theorem discerns_asEdgeBundle : Discerns (fun guid => asEdgeBundle guid) .edgeBundle := by
  constructor <;> intro guid entity kind <;> cases entity <;> simp_all [asEdgeBundle, Entity.kind]

theorem discerns_asStringAttribute :
    Discerns (fun guid => asStringAttribute guid) .stringAttribute := by
  constructor <;> intro guid entity kind <;> cases entity <;>
    simp_all [asStringAttribute, Entity.kind]

end Entity

namespace Session

variable {α : Type} {session : Session} {progress : Progress} {name : String} {guid : Guid}
  {entity : Entity}

theorem run_view (view : Guid → Entity → Except EngineError α)
    (bound : session.inputs[name]? = some (guid, entity)) :
    session.run (Program.input name >>= fun bound => Program.ofExcept (view bound.1 bound.2))
      progress = (view guid entity, progress) := by
  simp only [run_bind, Program.input, run, answer, input, bound]
  rfl

theorem run_vertexSet {vertices : VertexSet}
    (bound : session.inputs[name]? = some (guid, .vertexSet vertices)) :
    session.run (Program.vertexSet name) progress = (.ok vertices, progress) :=
  run_view (fun guid => Entity.asVertexSet guid) bound

theorem run_edgeBundle {bundle : EdgeBundle}
    (bound : session.inputs[name]? = some (guid, .edgeBundle bundle)) :
    session.run (Program.edgeBundle name) progress = (.ok bundle, progress) :=
  run_view (fun guid => Entity.asEdgeBundle guid) bound

theorem run_stringAttribute {column : Attribute String}
    (bound : session.inputs[name]? = some (guid, .stringAttribute column)) :
    session.run (Program.stringAttribute name) progress = (.ok column, progress) :=
  run_view (fun guid => Entity.asStringAttribute guid) bound

theorem run_ofExcept (result : Except EngineError α) :
    session.run (Program.ofExcept result) progress = (result, progress) := rfl

theorem run_output (declared : session.hasOutput name = true) :
    session.run (Program.output name entity) progress
      = (.ok (), { progress with outputs := progress.outputs.insert name entity }) := by
  simp only [Program.output, run, answer, declared, if_true]

theorem run_parameterAs {read? : Json → Option α} {given : Json} {value : α}
    (found : session.descriptor.parameter? name = some given) (reads : read? given = some value)
    (otherwise : ParameterFault) :
    session.run (Program.parameterAs read? otherwise name) progress = (.ok value, progress) := by
  simp only [Program.parameterAs, run_bind, Program.parameter?, run, answer, found, reads]
  rfl

theorem run_texts {texts : List String}
    (found : session.descriptor.parameter? name = some (.array (texts.map .string))) :
    session.run (Program.texts name) progress = (.ok texts, progress) := by
  have reads : Program.asTexts? (.array (texts.map .string)) = some texts := by
    rw [Program.asTexts?, List.mapM_map]
    exact List.mapM_pure.trans (congrArg some (List.map_id' texts))
  exact run_parameterAs found reads _

/-- Of the slots one is bound to an entity of another kind than it is meant for. Those before it
are bound as they should be, and the error says how it is bound. -/
inductive FirstMisfit (session : Session) : List (String × Kind) → EngineError → Prop where
  | here {name : String} {kind : Kind} {rest : List (String × Kind)} {guid : Guid}
      {entity : Entity} (bound : session.inputs[name]? = some (guid, entity))
      (other : entity.kind ≠ kind) :
      FirstMisfit session ((name, kind) :: rest) (.wrongKind guid kind entity.kind)
  | later {name : String} {kind : Kind} {rest : List (String × Kind)} {guid : Guid}
      {entity : Entity} {error : EngineError}
      (bound : session.inputs[name]? = some (guid, entity)) (own : entity.kind = kind)
      (others : FirstMisfit session rest error) :
      FirstMisfit session ((name, kind) :: rest) error

theorem exists_firstMisfit {slots : List (String × Kind)}
    (bound : ∀ slot ∈ slots, ∃ guid entity, session.inputs[slot.1]? = some (guid, entity))
    {slot : String × Kind} (listed : slot ∈ slots)
    (misfit : session.inputs[slot.1]? = some (guid, entity)) (other : entity.kind ≠ slot.2) :
    ∃ error, session.FirstMisfit slots error := by
  induction slots with
  | nil => cases listed
  | cons first rest ih =>
      obtain ⟨⟨guid, entity, found⟩, others⟩ := List.forall_mem_cons.mp bound
      by_cases own : entity.kind = first.2
      · rcases List.mem_cons.mp listed with rfl | later
        · cases found.symm.trans misfit
          exact absurd own other
        · obtain ⟨error, misfit⟩ := ih others later
          exact ⟨error, .later found own misfit⟩
      · exact ⟨_, .here found own⟩

theorem FirstMisfit.exists_slot {slots : List (String × Kind)} {error : EngineError}
    (misfit : session.FirstMisfit slots error) :
    ∃ slot ∈ slots, ∃ guid entity, session.inputs[slot.1]? = some (guid, entity) ∧
      entity.kind ≠ slot.2 ∧ error = .wrongKind guid slot.2 entity.kind := by
  induction misfit with
  | here bound other => exact ⟨_, List.mem_cons_self, _, _, bound, other, rfl⟩
  | later _ _ _ ih =>
      obtain ⟨slot, listed, found⟩ := ih
      exact ⟨slot, List.mem_cons_of_mem _ listed, found⟩

end Session

namespace Program

variable {α β : Type} {body : Program α} {slots rest : List (String × Kind)}

/-- The program begins by taking these inputs, and ends at the first that is of another kind. -/
def Insists (body : Program α) (slots : List (String × Kind)) : Prop :=
  ∀ session progress error, Session.FirstMisfit session slots error →
    session.run body progress = (.error error, progress) ∧
      ∀ exchange ∈ session.exchanges body progress, exchange.1.IsUnaided

namespace Insists

theorem nil (body : Program α) : body.Insists [] := by
  intro session progress error misfit
  cases misfit

/-- What has been taken before is of the right kind wherever the rest is looked at. -/
theorem take {view : Guid → Entity → Except EngineError β} {kind : Kind}
    (discerns : Entity.Discerns view kind) (name : String) {next : β → Program α}
    (others : ∀ value, (next value).Insists rest) :
    ((Program.input name >>= fun bound => Program.ofExcept (view bound.1 bound.2)) >>= next).Insists
      ((name, kind) :: rest) := by
  have unaided := (Unaided.input name).bind fun bound => Unaided.ofExcept (view bound.1 bound.2)
  intro session progress error misfit
  rw [Session.run_bind, Session.exchanges_bind]
  cases misfit with
  | here bound other =>
      rw [Session.run_view view bound, discerns.other other, List.append_nil]
      exact ⟨rfl, unaided session progress⟩
  | later bound own misfit =>
      obtain ⟨value, shown⟩ := discerns.own own
      obtain ⟨ends, passed⟩ := others value session progress error misfit
      rw [Session.run_view view bound, shown]
      exact ⟨ends, List.forall_mem_append.mpr ⟨unaided session progress, passed⟩⟩

end Insists

open Operation

theorem insists_oneHotEncoder : OneHotEncoder.body.Insists [("catAttr", .stringAttribute)] :=
  .take Entity.discerns_asStringAttribute _ fun _ => .nil _

theorem insists_outDegree :
    OutDegree.body.Insists [("src", .vertexSet), ("es", .edgeBundle)] :=
  .take Entity.discerns_asVertexSet _ fun _ => .take Entity.discerns_asEdgeBundle _ fun _ => .nil _

/-- The edges are staged without a look at their kind. -/
theorem insists_node2Vec (command : List String) :
    (Node2Vec.body command).Insists [("vs", .vertexSet)] :=
  .take Entity.discerns_asVertexSet _ fun _ => .nil _

end Program
end GraphEngine
