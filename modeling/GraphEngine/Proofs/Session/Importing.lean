import GraphEngine.Operation.HelperOutput
import GraphEngine.Proofs.Failures
import GraphEngine.Proofs.Session.Errors

/-!
Taking over what a helper has printed.

Each member is looked at only when its turn comes, and handed over before the next is looked at. So
a member that is not accepted ends the import, and what stands before it remains handed over.
-/
namespace GraphEngine

namespace HelperOutput

/-- The members of the object in their order. Several may have one name. -/
def members? (printed : List UInt8) : Option (List (String × Entity)) := do
  let tree ← (Json.Document.ofBytes printed).tree?
  let members ← tree.members?
  members.mapM fun (name, tree) =>
    (Entity.ofTree? (Json.nestingLimit - 1) tree).map (name, ·)

/-- The entity of the last member of a name. -/
def last? (members : List (String × Entity)) (name : String) : Option Entity :=
  members.reverse.lookup name

theorem parse?_eq (printed : List UInt8) :
    parse? printed = (members? printed).map fun members => Std.ExtTreeMap.ofList members := by
  rw [parse?, members?]
  cases (Json.Document.ofBytes printed).tree? with
  | none => rfl
  | some tree =>
      simp only [Option.bind_some, ofTree?, Option.bind_eq_bind, Option.pure_def]
      cases tree.members? with
      | none => rfl
      | some members => exact Option.map_eq_bind.symm

theorem getElem?_ofList (members : List (String × Entity)) (name : String) :
    (Std.ExtTreeMap.ofList members)[name]? = last? members name := by
  rw [Std.ExtTreeMap.ofList_eq_insertMany_empty, Maps.getElem?_insertMany,
    Std.ExtTreeMap.getElem?_empty, Option.or_none, last?]

end HelperOutput

namespace Session

open HelperOutput (last? members?)
open Program (importEntities importOutput importOutputs invalidOutput)

variable {session : Session} {progress : Progress} {command name reason : String}
  {entity : Entity} {error : EngineError} {front rest : List (String × Entity)}

/-- A slot is declared for the entity, and the entity is valid. -/
structure Accepts (session : Session) (name : String) (entity : Entity) : Prop where
  valid : entity.validate = .ok ()
  declared : session.hasOutput name = true

/-- Why an entity is not accepted, as it is worded. -/
inductive Rejects (session : Session) (name : String) (entity : Entity) : String → Prop where
  | invalid {error : EngineError} (fails : entity.validate = .error error) :
      Rejects session name entity error.message
  | undeclared (valid : entity.validate = .ok ()) (unknown : session.hasOutput name = false) :
      Rejects session name entity (EngineError.unknownOutput name).message

/-- What is made of one member. -/
def judge (session : Session) (command : String) (member : String × Entity) :
    Except EngineError Unit :=
  match member.2.validate with
  | .error error => .error (invalidOutput command error.message)
  | .ok () =>
      if session.hasOutput member.1 then .ok ()
      else .error (invalidOutput command (EngineError.unknownOutput member.1).message)

theorem judge_eq_ok : session.judge command (name, entity) = .ok () ↔
    session.Accepts name entity := by
  unfold judge
  constructor
  · intro h
    split at h
    · cases h
    · next valid =>
        split at h
        · next declared => exact ⟨valid, declared⟩
        · cases h
  · intro accepts
    rw [accepts.valid, accepts.declared]
    rfl

theorem judge_eq_error : session.judge command (name, entity) = .error error ↔
    ∃ reason, session.Rejects name entity reason ∧ error = invalidOutput command reason := by
  unfold judge
  constructor
  · intro h
    split at h
    · next fails =>
        cases h
        exact ⟨_, .invalid fails, rfl⟩
    · next valid =>
        split at h
        · cases h
        · next unknown =>
            cases h
            exact ⟨_, .undeclared valid (Bool.eq_false_iff.mpr unknown), rfl⟩
  · rintro ⟨reason, rejects, rfl⟩
    cases rejects with
    | invalid fails => rw [fails]
    | undeclared valid unknown => rw [valid, unknown]; rfl

/-- One member: it is handed over, or nothing changes. -/
theorem run_importOutput (session : Session) (command name : String) (entity : Entity)
    (progress : Progress) :
    session.run (importOutput command name entity) progress =
      match session.judge command (name, entity) with
      | .ok () => (.ok (), { progress with outputs := progress.outputs.insert name entity })
      | .error error => (.error error, progress) := by
  unfold importOutput judge
  cases valid : entity.validate with
  | error error => rfl
  | ok _ =>
      simp only [run_bind, run_attempt]
      cases declared : session.hasOutput name <;>
        simp [Program.output, run, answer, declared] <;> rfl

theorem run_importEntities_append
    (accepted : ∀ member ∈ front, ∃ taken, session.judge command member = .ok taken)
    (rest : List (String × Entity)) (progress : Progress) :
    session.run (importEntities command (front ++ rest)) progress =
      session.run (importEntities command rest)
        { progress with outputs := progress.outputs.insertMany front } := by
  induction front generalizing progress with
  | nil => rfl
  | cons member others ih =>
      obtain ⟨⟨_, taken⟩, others⟩ := List.forall_mem_cons.mp accepted
      rw [List.cons_append, importEntities, run_bind, run_importOutput, taken]
      simp only [ih others]
      rw [Std.ExtTreeMap.insertMany_cons]

theorem run_importEntities_of_rejected
    (accepted : ∀ member ∈ front, ∃ taken, session.judge command member = .ok taken)
    {member : String × Entity} (rejected : session.judge command member = .error error)
    (rest : List (String × Entity)) (progress : Progress) :
    session.run (importEntities command (front ++ member :: rest)) progress =
      (.error error, { progress with outputs := progress.outputs.insertMany front }) := by
  rw [run_importEntities_append accepted, importEntities, run_bind, run_importOutput, rejected]

/-- How an import ends and which outputs there are then. -/
inductive Imports (session : Session) (command : String) (printed : List UInt8)
    (before : Outputs) : Except EngineError Unit → Outputs → Prop where
  | unreadable (malformed : members? printed = none) :
      Imports session command printed before
        (.error (invalidOutput command "unparseable JSON: not an object of entities")) before
  | all {members : List (String × Entity)} {after : Outputs}
      (reads : members? printed = some members)
      (accepted : ∀ {name : String} {entity : Entity}, last? members name = some entity →
        session.Accepts name entity)
      (outputs : ∀ name : String, after[name]? = (last? members name).or before[name]?) :
      Imports session command printed before (.ok ()) after
  /-- Of the names whose entity is not accepted, this one has the earliest bytes. -/
  | upTo {members : List (String × Entity)} {after : Outputs} {name reason : String}
      {entity : Entity} (reads : members? printed = some members)
      (found : last? members name = some entity) (rejected : session.Rejects name entity reason)
      (accepted : ∀ {earlier : String} {other : Entity}, last? members earlier = some other →
        Utf8.encode earlier < Utf8.encode name → session.Accepts earlier other)
      (outputs : ∀ other : String, after[other]? =
        if Utf8.encode other < Utf8.encode name then (last? members other).or before[other]?
        else before[other]?) :
      Imports session command printed before (.error (invalidOutput command reason)) after

/-- An import takes over the members in the order of their names, up to the first that is not
accepted. It succeeds just if all are accepted. Nothing but the outputs changes, and of those only
the ones that are taken over. -/
theorem imports_run (session : Session) (command : String) (printed : List UInt8)
    (progress : Progress) :
    ∃ result after,
      session.run (importOutputs command printed) progress
        = (result, { progress with outputs := after }) ∧
      session.Imports command printed progress.outputs result after := by
  rw [importOutputs, HelperOutput.parse?_eq]
  cases reads : members? printed with
  | none => exact ⟨_, _, rfl, .unreadable reads⟩
  | some members =>
      have last (name : String) := HelperOutput.getElem?_ofList members name
      simp only [Option.map_some]
      generalize Std.ExtTreeMap.ofList members = entities at last ⊢
      have distinct : entities.toList.Pairwise fun entry later =>
          ¬ compare entry.1 later.1 = .eq := Std.ExtTreeMap.distinct_keys_toList
      cases judged : entities.toList.forM (session.judge command) with
      | ok _ =>
          have accepted := Result.forM_eq_ok.mp judged
          have run := run_importEntities_append
            (fun member listed => ⟨_, accepted member listed⟩) [] progress
          rw [List.append_nil] at run
          refine ⟨_, _, run, .all reads (fun {name entity} found => ?_) fun name => ?_⟩
          · rw [← last] at found
            exact judge_eq_ok.mp
              (accepted _ (Std.ExtTreeMap.mem_toList_iff_getElem?_eq_some.mpr found))
          · have listed {name : String} {entity : Entity} : (name, entity) ∈ entities.toList ↔
                entities[name]? = some entity ∧ True := by
              rw [and_true, Std.ExtTreeMap.mem_toList_iff_getElem?_eq_some]
            rw [← last, Maps.getElem?_insertMany_front distinct listed, if_pos trivial]
      | error error =>
          obtain ⟨front, ⟨name, entity⟩, behind, split, accepted, rejected⟩ :=
            Result.firstFailure_iff_exists.mp (Result.forM_eq_error.mp judged)
          obtain ⟨reason, rejects, rfl⟩ := judge_eq_error.mp rejected
          have found : entities[name]? = some entity :=
            Std.ExtTreeMap.mem_toList_iff_getElem?_eq_some.mp (split ▸ List.mem_append_cons_self)
          have isFront {earlier : String} {other : Entity} : (earlier, other) ∈ front ↔
              entities[earlier]? = some other ∧ Utf8.encode earlier < Utf8.encode name :=
            Maps.mem_before_iff split
          rw [split]
          refine ⟨_, _, run_importEntities_of_rejected accepted rejected behind progress,
            .upTo reads (by rw [← last, found]) rejects (fun found order => ?_) fun name => ?_⟩
          · rw [← last] at found
            obtain ⟨_, taken⟩ := accepted _ (isFront.mpr ⟨found, order⟩)
            exact judge_eq_ok.mp taken
          · rw [split] at distinct
            rw [← last, Maps.getElem?_insertMany_front (List.pairwise_append.mp distinct).1 isFront]

def oneSlot : Session where
  descriptor := (Descriptor.ofName "Import").withOutput "a" ⟨"g"⟩
  inputs := ∅
  staging := ⟨"staging", ["staging"]⟩
  helper := fun files _ => (.finished 0 [] [], files)

def nothingYet : Progress := ⟨∅, .empty, []⟩

def undeclaredMember : List UInt8 :=
  Utf8.encode ("\x7b\"a\":\x7b\"kind\":\"VertexSet\",\"mapping_to_unordered\":[1]\x7d,"
    ++ "\"b\":\x7b\"kind\":\"VertexSet\",\"mapping_to_unordered\":[2]\x7d\x7d")

def repeatedMember : List UInt8 :=
  Utf8.encode ("\x7b\"a\":\x7b\"kind\":\"LongAttribute\",\"values\":[1],\"defined\":[]\x7d,"
    ++ "\"a\":\x7b\"kind\":\"VertexSet\",\"mapping_to_unordered\":[1]\x7d\x7d")

theorem imports_part_of_object :
    ((oneSlot.run (importOutputs "helper" undeclaredMember) nothingYet).1
        = .error (invalidOutput "helper" "Unknown slot: output `b`") ∧
      nothingYet.outputs["a"]? = none ∧
      (oneSlot.run (importOutputs "helper" undeclaredMember) nothingYet).2.outputs["a"]?
        = some (.vertexSet ⟨[1]⟩)) ∧
    (oneSlot.run (importOutputs "helper" repeatedMember) nothingYet).1 = .ok () ∧
      members? repeatedMember
        = some [("a", .longAttribute ⟨[1], []⟩), ("a", .vertexSet ⟨[1]⟩)] ∧
      (Entity.longAttribute ⟨[1], []⟩).validate ≠ .ok () := by
  refine ⟨⟨by decide +kernel, by decide +kernel, by decide +kernel⟩, by decide +kernel,
    by decide +kernel, by decide +kernel⟩

end Session
end GraphEngine
