import GraphEngine.Proofs.Descriptor.ReadBack

/-!
Descriptors that are put together entry by entry.

What is put into a descriptor stands under its name until something else is put there. Parameters
live in one object of the data, so each of them must leave room for that object too.
-/
namespace GraphEngine

namespace Json

theorem lookup_cons_eq_ite {asked name : String} {value : Json}
    {members : List (String × Json)} :
    ((name, value) :: members).lookup asked
      = if asked = name then some value else members.lookup asked := by
  rw [List.lookup_cons]
  by_cases same : asked = name
  · rw [beq_iff_eq.mpr same, if_pos same]
  · rw [beq_eq_false_iff_ne.mpr same, if_neg same]

theorem lookup_insertMember (name : String) (value : Json) (members : List (String × Json))
    (asked : String) :
    (insertMember name value members).lookup asked
      = if asked = name then some value else members.lookup asked := by
  induction members with
  | nil => exact lookup_cons_eq_ite
  | cons member rest ih =>
      obtain ⟨k, v⟩ := member
      unfold insertMember
      split
      · next same =>
          rw [lookup_cons_eq_ite, lookup_cons_eq_ite, same]
          split_ifs <;> rfl
      · next other =>
          rw [lookup_cons_eq_ite, lookup_cons_eq_ite, ih]
          split_ifs with isFirst isNew
          · exact absurd (isFirst.symm.trans isNew) other
          · rfl
          · rfl
          · rfl

theorem nestsWithin_object_nil (room : Nat) : (object []).NestsWithin (room + 1) :=
  ⟨⟨List.nodup_nil, trivial⟩, Nat.succ_le_succ (Nat.zero_le room)⟩

theorem nestsWithin_insertMember {room : Nat} {name : String} {value : Json}
    {members : List (String × Json)} (inserted : value.NestsWithin room)
    (others : (object members).NestsWithin (room + 1)) :
    (object (insertMember name value members)).NestsWithin (room + 1) := by
  obtain ⟨⟨distinct, wellFormed⟩, shallow⟩ := others
  refine ⟨⟨nodup_insertMember distinct,
    wellFormedMembers_insertMember inserted.wellFormed wellFormed⟩, ?_⟩
  have inside := membersDepth_insertMember name value members
  have depth_le := inserted.depth_le
  rw [depth] at shallow ⊢
  omega

end Json

namespace Descriptor

/-- A thing that is put into a descriptor under a name. -/
inductive Entry where
  | input (name : String) (guid : Guid)
  | output (name : String) (guid : Guid)
  | parameter (name : String) (value : Json)

namespace Entry

def input? (name : String) : Entry → Option Guid
  | .input other guid => if name = other then some guid else none
  | _ => none

def output? (name : String) : Entry → Option Guid
  | .output other guid => if name = other then some guid else none
  | _ => none

def parameter? (name : String) : Entry → Option Json
  | .parameter other value => if name = other then some value else none
  | _ => none

/-- A parameter leaves room in the text for the data around it and for what is around those. -/
def NestsWithin (room : Nat) : Entry → Prop
  | .parameter _ value => value.NestsWithin room
  | _ => True

def NumbersReadBack : Entry → Prop
  | .parameter _ value => value.NumbersReadBack
  | _ => True

end Entry

/-- The descriptor with one more entry. -/
def withEntry (descriptor : Descriptor) : Entry → Descriptor
  | .input name guid => descriptor.withInput name guid
  | .output name guid => descriptor.withOutput name guid
  | .parameter name value => descriptor.withParameter name value

def withEntries (descriptor : Descriptor) (entries : List Entry) : Descriptor :=
  entries.foldl withEntry descriptor

section Entries

variable {β : Type} {descriptor : Descriptor} {entry : Entry}

/-- What one more entry gives stands from then on, so the last that gives something stands at the
end. -/
theorem view_withEntries (view : Descriptor → Option β) (given : Entry → Option β)
    (step : ∀ descriptor entry,
      view (withEntry descriptor entry) = (given entry).or (view descriptor))
    (descriptor : Descriptor) (entries : List Entry) :
    view (descriptor.withEntries entries)
      = (entries.reverse.findSome? given).or (view descriptor) := by
  induction entries generalizing descriptor with
  | nil => rfl
  | cons entry rest ih =>
      have later : withEntries descriptor (entry :: rest)
          = (withEntry descriptor entry).withEntries rest := rfl
      rw [later, ih, step, List.reverse_cons, List.findSome?_append, Option.or_assoc,
        List.findSome?_singleton]

theorem getElem?_insert_or (slots : Slots) (other : String) (guid : Guid) (name : String) :
    (slots.insert other guid)[name]?
      = (if name = other then some guid else none).or slots[name]? := by
  rw [Std.ExtTreeMap.getElem?_insert]
  by_cases same : name = other
  · rw [if_pos same, if_pos (Std.LawfulEqCmp.compare_eq_iff_eq.mpr same.symm)]
    rfl
  · rw [if_neg same, if_neg fun equal => same (Std.LawfulEqCmp.eq_of_compare equal).symm]
    rfl

theorem inputs_withEntry (name : String) (descriptor : Descriptor) (entry : Entry) :
    (withEntry descriptor entry).inputs[name]?
      = (entry.input? name).or descriptor.inputs[name]? := by
  cases entry with
  | input other guid => exact getElem?_insert_or ..
  | output other guid | parameter other value => rfl

theorem outputs_withEntry (name : String) (descriptor : Descriptor) (entry : Entry) :
    (withEntry descriptor entry).outputs[name]?
      = (entry.output? name).or descriptor.outputs[name]? := by
  cases entry with
  | output other guid => exact getElem?_insert_or ..
  | input other guid | parameter other value => rfl

theorem parameter?_withEntry (name : String) (descriptor : Descriptor) (entry : Entry) :
    (withEntry descriptor entry).parameter? name
      = (entry.parameter? name).or (descriptor.parameter? name) := by
  cases entry with
  | input other guid | output other guid => rfl
  | parameter other value =>
      obtain ⟨className, data, inputs, outputs⟩ := descriptor
      simp only [withEntry, withParameter, parameter?, Json.get?, Json.member?, Entry.parameter?,
        Json.lookup_insertMember]
      by_cases same : name = other
      · simp [same]
      · cases data <;> simp [same]

theorem nestsWithin_withEntry {room : Nat} (nests : descriptor.data.NestsWithin (room + 1))
    (shallow : entry.NestsWithin room) :
    (withEntry descriptor entry).data.NestsWithin (room + 1) := by
  cases entry with
  | input _ _ | output _ _ => exact nests
  | parameter name value =>
      refine Json.nestsWithin_insertMember shallow ?_
      cases data : descriptor.data with
      | object members => exact data ▸ nests
      | null | boolean _ | number _ | string _ | array _ => exact Json.nestsWithin_object_nil room

theorem nestsWithin_withEntries {room : Nat} {entries : List Entry}
    (nests : descriptor.data.NestsWithin (room + 1))
    (shallow : ∀ entry ∈ entries, entry.NestsWithin room) :
    (descriptor.withEntries entries).data.NestsWithin (room + 1) := by
  induction entries generalizing descriptor with
  | nil => exact nests
  | cons entry rest ih =>
      obtain ⟨first, others⟩ := List.forall_mem_cons.mp shallow
      exact ih (nestsWithin_withEntry nests first) others

theorem numbersReadBack_withEntry (numbers : descriptor.data.NumbersReadBack)
    (more : entry.NumbersReadBack) : (withEntry descriptor entry).data.NumbersReadBack := by
  cases entry with
  | input _ _ | output _ _ => exact numbers
  | parameter name value =>
      refine Json.membersReadBack_insertMember more ?_
      cases data : descriptor.data with
      | object members =>
          rw [data] at numbers
          exact numbers
      | null | boolean _ | number _ | string _ | array _ => trivial

theorem numbersReadBack_withEntries {entries : List Entry}
    (numbers : descriptor.data.NumbersReadBack) (more : ∀ entry ∈ entries, entry.NumbersReadBack) :
    (descriptor.withEntries entries).data.NumbersReadBack := by
  induction entries generalizing descriptor with
  | nil => exact numbers
  | cons entry rest ih =>
      obtain ⟨first, others⟩ := List.forall_mem_cons.mp more
      exact ih (numbersReadBack_withEntry numbers first) others

end Entries

/-- A descriptor whose data leave two containers' room is read back from its text, and no other is,
as far as its numbers are. What has been read may be written again: no call to the engine can tell
the two texts apart. Of the entries that are put into a descriptor the last one under a name stands,
and the whole is read back if each parameter leaves room for three containers. -/
theorem json_describes :
    (∀ descriptor : Descriptor, descriptor.data.WellFormed → descriptor.data.NumbersReadBack →
      (parse descriptor.json = .ok descriptor ↔ descriptor.data.depth ≤ 125)) ∧
    (∀ text descriptor, parse text = .ok descriptor → descriptor.data.NumbersReadBack →
      parse descriptor.json = .ok descriptor ∧
      ∀ (engine : Engine) (store : Store),
        engine.canCompute descriptor.json = engine.canCompute text ∧
        engine.compute store descriptor.json = engine.compute store text) ∧
    (∀ (descriptor : Descriptor) (entries : List Entry) (name : String),
      (descriptor.withEntries entries).inputs[name]?
        = (entries.reverse.findSome? (·.input? name)).or descriptor.inputs[name]? ∧
      (descriptor.withEntries entries).outputs[name]?
        = (entries.reverse.findSome? (·.output? name)).or descriptor.outputs[name]? ∧
      (descriptor.withEntries entries).parameter? name
        = (entries.reverse.findSome? (·.parameter? name)).or (descriptor.parameter? name)) ∧
    ∀ (name : String) (entries : List Entry),
      (∀ entry ∈ entries, entry.NestsWithin 124 ∧ entry.NumbersReadBack) →
      parse ((ofName name).withEntries entries).json = .ok ((ofName name).withEntries entries) := by
  refine ⟨fun descriptor wellFormed numbers => ?_, fun text descriptor parses numbers => ?_,
    fun descriptor entries name => ?_, fun name entries good => ?_⟩
  · rw [parse_json wellFormed numbers]
    split <;> simp_all
  · have again := parse_json_of_nestsWithin (nestsWithin_of_parse parses) numbers
    have same := again.trans parses.symm
    exact ⟨again, fun engine store =>
      ⟨Engine.canCompute_congr same engine, Engine.compute_congr same engine store⟩⟩
  · exact ⟨view_withEntries (·.inputs[name]?) _ (inputs_withEntry name) descriptor entries,
      view_withEntries (·.outputs[name]?) _ (outputs_withEntry name) descriptor entries,
      view_withEntries (·.parameter? name) _ (parameter?_withEntry name) descriptor entries⟩
  · have begins : (ofName name).data.NestsWithin 125 := Json.nestsWithin_object_nil 124
    exact parse_json_of_nestsWithin
      (nestsWithin_withEntries begins fun entry listed => (good entry listed).1)
      (numbersReadBack_withEntries trivial fun entry listed => (good entry listed).2)

/-- A weight that is given twice. -/
def weightTwice : List Entry :=
  [.input "src" ⟨"v"⟩, .parameter "weight" (.ofNat 1), .output "out\"degree" ⟨"d"⟩,
    .parameter "weight" (.array [.null, .ofDouble .one])]

def classAlone : String := "\x7b\"Operation\":[\"OutDegree\"],\"more\":0\x7d"

theorem json_describes_weightTwice :
    let descriptor := (ofName "OutDegree").withEntries weightTwice
    (∀ entry ∈ weightTwice, entry.NestsWithin 124 ∧ entry.NumbersReadBack) ∧
      descriptor.data.WellFormed ∧ descriptor.data.NumbersReadBack ∧
      parse descriptor.json = .ok descriptor ∧ descriptor.data.depth ≤ 125 ∧
      descriptor.parameter? "weight" = some (.array [.null, .ofDouble .one]) ∧
      parse classAlone = .ok ⟨"OutDegree", .null, ∅, ∅⟩ ∧
      ∀ (engine : Engine) (store : Store),
        engine.compute store (json ⟨"OutDegree", .null, ∅, ∅⟩)
          = engine.compute store classAlone := by
  intro descriptor
  obtain ⟨writes, again, last, built⟩ := json_describes
  have list : (Json.array [.null, .ofDouble .one]).NestsWithin 1 := by
    refine Json.nestsWithin_array (List.forall_mem_cons.mpr ⟨⟨trivial, Nat.le_refl 0⟩, ?_⟩)
    exact List.forall_mem_singleton.mpr (Json.nestsWithin_ofDouble _)
  have numbers : (Json.array [.null, .ofDouble .one]).NumbersReadBack := by
    have one : (Json.Number.real .one rfl).ReadsBack := by decide +kernel
    exact ⟨trivial, one, trivial⟩
  have good : ∀ entry ∈ weightTwice, entry.NestsWithin 124 ∧ entry.NumbersReadBack := by
    simp only [weightTwice, List.forall_mem_cons]
    exact ⟨⟨trivial, trivial⟩,
      ⟨(Json.nestsWithin_ofInt 1).mono (by omega), Json.Number.readsBack_integer 1 (by decide)⟩,
      ⟨trivial, trivial⟩, ⟨list.mono (by omega), numbers⟩, nofun⟩
  have wellFormed : descriptor.data.WellFormed :=
    (nestsWithin_withEntries (Json.nestsWithin_object_nil 124)
      fun entry listed => (good entry listed).1).wellFormed
  have numbersReadBack : descriptor.data.NumbersReadBack :=
    numbersReadBack_withEntries trivial fun entry listed => (good entry listed).2
  have parses := built "OutDegree" weightTwice good
  have alone : parse classAlone = .ok ⟨"OutDegree", .null, ∅, ∅⟩ := rfl
  exact ⟨good, wellFormed, numbersReadBack, parses,
    (writes descriptor wellFormed numbersReadBack).mp parses,
    (last (ofName "OutDegree") weightTwice "weight").2.2, alone,
    fun engine store => ((again _ _ alone trivial).2 engine store).2⟩

end Descriptor
end GraphEngine
