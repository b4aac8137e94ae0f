import GraphEngine.Operation.HelperOutput
import GraphEngine.Proofs.Area.Interruption
import GraphEngine.Proofs.Json.Bytes

/-!
An entity is read back from its JSON, or nothing is.

Only doubles can be lost on the way: what is no finite number is written as `null`, and a single
`null` among the values stops the reading of the whole entity.
-/
namespace GraphEngine

namespace Json

/-- No name is given twice, and at most so many containers are nested. -/
structure NestsWithin (room : Nat) (value : Json) : Prop where
  wellFormed : value.WellFormed
  depth_le : value.depth ≤ room

theorem NestsWithin.toJson?_toTree {room : Nat} {value : Json} (h : value.NestsWithin room)
    (numbers : value.NumbersReadBack) : value.toTree.toJson? room = some value := by
  rw [Json.toJson?_toTree h.wellFormed numbers, if_pos h.depth_le]

theorem nestsWithin_array {room : Nat} {items : List Json}
    (h : ∀ item ∈ items, item.NestsWithin room) : (array items).NestsWithin (room + 1) := by
  suffices WellFormedItems items ∧ itemsDepth items ≤ room from
    ⟨this.1, Nat.succ_le_succ this.2⟩
  induction items with
  | nil => exact ⟨trivial, Nat.zero_le room⟩
  | cons item rest ih =>
      obtain ⟨first, others⟩ := List.forall_mem_cons.mp h
      obtain ⟨wellFormed, shallow⟩ := ih others
      exact ⟨⟨first.wellFormed, wellFormed⟩, Nat.max_le.mpr ⟨first.depth_le, shallow⟩⟩

theorem nestsWithin_map {α : Type} {room : Nat} {item : α → Json}
    (h : ∀ value, (item value).NestsWithin room) (values : List α) :
    (array (values.map item)).NestsWithin (room + 1) :=
  nestsWithin_array (List.forall_mem_map.mpr fun value _ => h value)

theorem nestsWithin_boolean (value : Bool) : (boolean value).NestsWithin 0 :=
  ⟨trivial, Nat.le_refl 0⟩

theorem nestsWithin_string (text : String) : (string text).NestsWithin 0 :=
  ⟨trivial, Nat.le_refl 0⟩

theorem nestsWithin_ofInt (n : Int) : (ofInt n).NestsWithin 0 := by
  unfold ofInt
  split <;> exact ⟨trivial, Nat.le_refl 0⟩

theorem nestsWithin_ofDouble (d : Double) : (ofDouble d).NestsWithin 0 := by
  unfold ofDouble
  split <;> exact ⟨trivial, Nat.le_refl 0⟩

theorem NestsWithin.mono {few many : Nat} {value : Json} (h : value.NestsWithin few)
    (le : few ≤ many) : value.NestsWithin many :=
  ⟨h.wellFormed, h.depth_le.trans le⟩

theorem members?_memberTrees (members : List (String × Json)) :
    (Tree.object (memberTrees members) true).members? =
      some (members.map fun member => (member.1, member.2.toTree)) := by
  rw [Tree.members?]
  induction members with
  | nil => rfl
  | cons member rest ih =>
      simp only [memberTrees, List.mapM_cons, ih]
      rfl

/-- Reading a list stops at the first item that does not come back. -/
theorem mapM_guard {α β : Type} (read : β → Option α) (write : α → β) (good : α → Bool)
    {values : List α} (h : ∀ value ∈ values, read (write value) = Option.guard good value) :
    (values.map write).mapM read = Option.guard (·.all good) values := by
  induction values with
  | nil => rfl
  | cons value rest ih =>
      obtain ⟨first, others⟩ := List.forall_mem_cons.mp h
      rw [List.map_cons, List.mapM_cons, first, ih others]
      cases goodFirst : good value <;> cases goodRest : rest.all good <;>
        simp [Option.guard, goodFirst, goodRest]

/-- Members that leave room are read as the values they were written for. -/
theorem mapM_toJson?_toTree {room : Nat} {members : List (String × Json)}
    (h : ∀ member ∈ members, member.2.NestsWithin room) (numbers : MembersReadBack members) :
    (members.map fun member => (member.1, member.2.toTree)).mapM
      (fun member => (member.2.toJson? room).map (member.1, ·)) = some members := by
  have reads := mapM_guard
    (fun member : String × Tree => (member.2.toJson? room).map (member.1, ·))
    (fun member : String × Json => (member.1, member.2.toTree)) (fun _ => true)
    fun member listed => by
      rw [(h member listed).toJson?_toTree (membersReadBack_iff.mp numbers member listed)]
      rfl
  rw [reads]
  simp [Option.guard]

end Json

namespace Entity

/-- Every double among the values, also those in undefined slots. -/
def valueDoubles : Entity → List Double
  | .doubleAttribute column => column.values
  | .doubleTuple2Attribute column => column.values.flatMap fun (first, second) => [first, second]
  | .doubleVectorAttribute column => column.values.flatten
  | _ => []

def isFinite (entity : Entity) : Bool := entity.valueDoubles.all Double.isFinite

/-- The value comes back from its JSON if it is good, and otherwise nothing does. -/
def ReadsBack {α : Type} (item : α → Json) (item? : Json → Option α) (good : α → Bool) : Prop :=
  ∀ value, item? (item value) = Option.guard good value

section ReadsBack

variable {α : Type} {item : α → Json} {item? : Json → Option α} {good : α → Bool}

theorem readsBack_long : ReadsBack (fun n => .ofInt n.toInt) long? fun _ => true := by
  intro n
  have isWord : Json.IsWord n.toInt := by
    have low := n.le_toInt
    have high := n.toInt_lt
    constructor <;> omega
  simp only [Json.ofInt, dif_pos isWord, long?, Json.Number.toInt64?, n.toInt_le, if_true,
    Int64.ofInt_toInt]
  rfl

theorem readsBack_text : ReadsBack .string text? fun _ => true := fun _ => rfl

theorem readsBack_flag : ReadsBack .boolean flag? fun _ => true := fun _ => rfl

theorem readsBack_double : ReadsBack .ofDouble double? Double.isFinite := by
  intro d
  by_cases finite : d.isFinite = true <;>
    simp [Json.ofDouble, finite, double?, Json.Number.toDouble, Option.guard]

theorem readsBack_list (h : ReadsBack item item? good) :
    ReadsBack (fun values => .array (values.map item)) (list? item?) (·.all good) :=
  fun _ => Json.mapM_guard item? item good fun value _ => h value

theorem readsBack_pair :
    ReadsBack pairItem pair? fun value => value.1.isFinite && value.2.isFinite := by
  rintro ⟨first, second⟩
  simp only [pairItem, doubles, List.map_cons, List.map_nil, pair?, readsBack_double first,
    readsBack_double second]
  cases goodFirst : first.isFinite <;> cases goodSecond : second.isFinite <;>
    simp [Option.guard, goodFirst, goodSecond]

theorem all_true (values : List α) : values.all (fun _ => true) = true := by simp

theorem list?_map (h : ReadsBack item item? fun _ => true) (values : List α) :
    list? item? (.array (values.map item)) = some values := by
  rw [readsBack_list h, Option.guard, if_pos (all_true values)]

theorem readsBack_column (h : ReadsBack item item? good) (column : Attribute α) :
    column? item? (.array (column.values.map item)) (flags column.defined) =
      Option.guard (·.values.all good) column := by
  rw [column?, readsBack_list h, flags, list?_map readsBack_flag]
  cases allGood : column.values.all good <;> simp [Option.guard, allGood]

theorem map_column? (h : ReadsBack item item? good) {column : Attribute α}
    {wrap : Attribute α → Entity} (same : (wrap column).isFinite = column.values.all good) :
    (column? item? (.array (column.values.map item)) (flags column.defined)).map wrap =
      Option.guard isFinite (wrap column) := by
  rw [readsBack_column h, Option.guard, Option.guard, same]
  split <;> rfl

end ReadsBack

theorem ofFields?_fields (entity : Entity) :
    ofFields? entity.kind (entity.fields.map Prod.snd) = Option.guard isFinite entity := by
  have read : ∀ values, list? long? (longs values) = some values := list?_map readsBack_long
  cases entity with
  | vertexSet vertices =>
      simp only [kind, fields, List.map_cons, List.map_nil, ofFields?, read]
      rfl
  | edgeBundle bundle =>
      simp only [kind, fields, List.map_cons, List.map_nil, ofFields?, read]
      rfl
  | stringAttribute column => exact map_column? readsBack_text (all_true _).symm
  | doubleAttribute column => exact map_column? readsBack_double rfl
  | longAttribute column => exact map_column? readsBack_long (all_true _).symm
  | doubleTuple2Attribute column =>
      refine map_column? readsBack_pair ?_
      simp [isFinite, valueDoubles, List.all_flatMap]
  | doubleVectorAttribute column =>
      refine map_column? (readsBack_list readsBack_double) ?_
      simp [isFinite, valueDoubles, List.all_flatten]
  | scalar value => rfl

/-- A free value leaves room for what is around it; the other kinds hardly nest at all. -/
def NestsWithin (room : Nat) : Entity → Prop
  | .scalar value => value.NestsWithin room
  | _ => True

theorem nestsWithin_flags (values : List Bool) : (flags values).NestsWithin 1 :=
  Json.nestsWithin_map Json.nestsWithin_boolean values

theorem nestsWithin_longs (values : List Int64) : (longs values).NestsWithin 1 :=
  Json.nestsWithin_map (fun _ => Json.nestsWithin_ofInt _) values

theorem nestsWithin_doubles (values : List Double) : (doubles values).NestsWithin 1 :=
  Json.nestsWithin_map Json.nestsWithin_ofDouble values

theorem nestsWithin_column {α : Type} {item : α → Json} (h : ∀ value, (item value).NestsWithin 1)
    (column : Attribute α) : ∀ field ∈ columnFields item column, field.2.NestsWithin 2 := by
  simp only [columnFields, List.forall_mem_cons]
  exact ⟨Json.nestsWithin_map h _, (nestsWithin_flags _).mono (by omega), by simp⟩

theorem nestsWithin_fields {entity : Entity} {room : Nat} (h : entity.NestsWithin room)
    (enough : 2 ≤ room) : ∀ field ∈ entity.fields, field.2.NestsWithin room := by
  have few : ∀ {fields : List (String × Json)}, (∀ field ∈ fields, field.2.NestsWithin 2) →
      ∀ field ∈ fields, field.2.NestsWithin room :=
    fun nests field listed => (nests field listed).mono enough
  have flat : ∀ {value : Json}, value.NestsWithin 0 → value.NestsWithin 1 :=
    fun nests => nests.mono (Nat.zero_le 1)
  cases entity with
  | vertexSet vertices =>
      refine few ?_
      simpa [fields] using (nestsWithin_longs vertices.externalIds).mono (by omega)
  | edgeBundle bundle =>
      refine few ?_
      simp only [fields, List.forall_mem_cons]
      exact ⟨(nestsWithin_longs _).mono (by omega), (nestsWithin_longs _).mono (by omega),
        (nestsWithin_longs _).mono (by omega), by simp⟩
  | stringAttribute column =>
      exact few (nestsWithin_column (fun text => flat (Json.nestsWithin_string text)) column)
  | doubleAttribute column =>
      exact few (nestsWithin_column (fun d => flat (Json.nestsWithin_ofDouble d)) column)
  | longAttribute column =>
      exact few (nestsWithin_column (fun _ => flat (Json.nestsWithin_ofInt _)) column)
  | doubleTuple2Attribute column =>
      exact few (nestsWithin_column (fun _ => nestsWithin_doubles _) column)
  | doubleVectorAttribute column =>
      exact few (nestsWithin_column nestsWithin_doubles column)
  | scalar value =>
      simp only [fields, List.forall_mem_singleton]
      exact h

/-- Every field is found under its name, and the kind under its own. -/
theorem ofMembers?_members (entity : Entity) :
    ofMembers? (("kind", .string entity.kind.name) :: entity.fields) =
      ofFields? entity.kind (entity.fields.map Prod.snd) := by
  have named : single? (("kind", .string entity.kind.name) :: entity.fields) "kind" =
      some (.string entity.kind.name) := by
    cases entity <;> rfl
  have found : (fieldNames entity.kind).mapM
      (single? (("kind", .string entity.kind.name) :: entity.fields)) =
        some (entity.fields.map Prod.snd) := by
    cases entity <;> rfl
  simp only [ofMembers?, named, found, text?, Kind.ofName?_name, Option.bind_eq_bind,
    Option.bind_some]

theorem ofTree?_toTree {entity : Entity} {room : Nat} (h : entity.NestsWithin room)
    (numbers : entity.toJson.NumbersReadBack) (enough : 2 ≤ room) :
    ofTree? (room + 1) entity.toJson.toTree = Option.guard isFinite entity := by
  have members : ∀ member ∈ ("kind", Json.string entity.kind.name) :: entity.fields,
      member.2.NestsWithin room :=
    List.forall_mem_cons.mpr
      ⟨(Json.nestsWithin_string _).mono (Nat.zero_le room), nestsWithin_fields h enough⟩
  simp only [toJson, Json.toTree, ofTree?, Json.members?_memberTrees, Nat.add_sub_cancel,
    Json.mapM_toJson?_toTree members numbers, Nat.zero_lt_succ, guard, if_true, Option.bind_eq_bind,
    Option.bind_some, ofMembers?_members, ofFields?_fields]
  rfl

/-- The entity that the bytes are the JSON of. -/
def ofBytes? (bytes : List UInt8) : Option Entity :=
  (Json.Document.ofBytes bytes).tree?.bind (ofTree? Json.nestingLimit)

theorem ofBytes?_json {entity : Entity} (nests : entity.NestsWithin 126)
    (numbers : entity.toJson.NumbersReadBack) :
    ofBytes? (Utf8.encode entity.json) = Option.guard isFinite entity := by
  rw [ofBytes?, json, Json.ofBytes_compact]
  exact ofTree?_toTree nests numbers (by omega)

end Entity

/-- Outputs are printed and read again all together, or none of them is. -/
theorem HelperOutput.parse?_compact {outputs : List (String × Entity)}
    (nest : ∀ output ∈ outputs, output.2.NestsWithin 125)
    (numbers : ∀ output ∈ outputs, output.2.toJson.NumbersReadBack) :
    parse? (Utf8.encode (Json.object (outputs.map fun output =>
        (output.1, output.2.toJson))).compact) =
      (Option.guard (·.all (·.2.isFinite)) outputs).map (Std.ExtTreeMap.ofList ·) := by
  have entities := Json.mapM_guard
    (fun member : String × Json.Tree =>
      (Entity.ofTree? (Json.nestingLimit - 1) member.2).map (member.1, ·))
    (fun output : String × Entity => (output.1, output.2.toJson.toTree)) (·.2.isFinite)
    fun output listed => by
      have reads : Entity.ofTree? (Json.nestingLimit - 1) output.2.toJson.toTree = _ :=
        Entity.ofTree?_toTree (nest _ listed) (numbers _ listed) (by omega)
      rw [reads, Option.guard, Option.guard]
      split <;> rfl
  simp only [parse?, Json.ofBytes_compact, Json.Document.tree?, if_true, Option.bind_some, ofTree?,
    Json.toTree, Json.members?_memberTrees, List.map_map, Option.bind_eq_bind]
  rw [show ((fun member : String × Json => (member.1, member.2.toTree)) ∘
    fun output : String × Entity => (output.1, output.2.toJson)) =
      fun output => (output.1, output.2.toJson.toTree) from rfl, entities]
  rw [Option.guard]
  split <;> rfl

theorem Area.node?_of_stage {area : Area} {guid : Guid} {entity : Entity} {files changed : Files}
    {staged : Staged} (stages : area.stage guid entity files = (.ok staged, changed)) :
    changed.node? (area.folder guid ++ [stagedName]) =
      some (.file (.ofBytes (Utf8.encode entity.json))) := by
  have performed : performAll (area.stageSteps guid entity) files = (.ok (), changed) := by
    simp only [stage, Prod.mk.injEq] at stages
    obtain ⟨result, rfl⟩ := stages
    refine Prod.ext ?_ rfl
    cases done : (performAll (area.stageSteps guid entity) files).1 with
    | error error =>
        rw [done] at result
        cases result
    | ok _ => rfl
  obtain ⟨list, listed, performed⟩ := performAll_eq_ok.mp performed
  obtain ⟨directory, named, listed⟩ := Result.bind_eq_ok.mp listed
  cases eq_folder_of_directory named
  cases listed
  obtain ⟨made, _, performed⟩ := Files.perform_cons_eq_ok.mp performed
  exact node?_of_replaceSteps performed

namespace Entity

/-- What is staged of an entity gives exactly the entity back when its doubles are numbers, and
gives nothing back when one of them is not, wherever it stands. -/
theorem staged_json_reads_back (entity : Entity) (nests : entity.NestsWithin 126)
    (numbers : entity.toJson.NumbersReadBack) :
    (ofBytes? (Utf8.encode entity.json) = some entity ↔
      ∀ d ∈ entity.valueDoubles, d.isFinite = true) ∧
    ((∃ d ∈ entity.valueDoubles, d.isFinite = false) →
      ofBytes? (Utf8.encode entity.json) = none) ∧
    (∀ other, ofBytes? (Utf8.encode entity.json) = some other → other = entity) ∧
    (∀ {area : Area} {guid : Guid} {files changed : Files} {staged : Staged},
      area.stage guid entity files = (.ok staged, changed) →
      changed.read (area.folder guid ++ [Area.stagedName]) =
        .ok (.ofBytes (Utf8.encode entity.json))) ∧
    ∀ name, entity.NestsWithin 125 →
      HelperOutput.parse? (Utf8.encode (Json.object [(name, entity.toJson)]).compact) =
        if entity.isFinite then
          some (Std.ExtTreeMap.ofList [(name, entity)])
        else none := by
  rw [ofBytes?_json nests numbers]
  refine ⟨?_, ?_, ?_, fun stages => ?_, fun name nests => ?_⟩
  · rw [Option.guard_eq_some_iff, isFinite, List.all_eq_true]
    simp
  · rintro ⟨d, listed, notFinite⟩
    rw [Option.guard_eq_none_iff, isFinite, List.all_eq_false]
    exact ⟨d, listed, by simp [notFinite]⟩
  · intro other read
    exact (Option.guard_eq_some_iff.mp read).1.symm
  · rw [Files.read, Files.find, Area.node?_of_stage stages]
  · have nest : ∀ output ∈ [(name, entity)], output.2.NestsWithin 125 :=
      List.forall_mem_singleton.mpr nests
    rw [show [(name, entity.toJson)] = [(name, entity)].map fun output =>
      (output.1, output.2.toJson) from rfl, HelperOutput.parse?_compact nest
        (List.forall_mem_singleton.mpr numbers)]
    cases finite : entity.isFinite <;> simp [Option.guard, finite]

/-- A number that is none, in a slot that is undefined. -/
def withoutNumber : Entity :=
  .doubleVectorAttribute ⟨[[.one], [.zero, ⟨0x7FF8000000000000⟩]], [true, false]⟩

theorem withoutNumber_numbersReadBack : withoutNumber.toJson.NumbersReadBack := by
  have one : (Json.Number.real .one rfl).ReadsBack := by decide +kernel
  have zero : (Json.Number.real .zero rfl).ReadsBack := by decide +kernel
  exact ⟨trivial, ⟨⟨one, trivial⟩, ⟨zero, trivial, trivial⟩, trivial⟩, ⟨trivial, trivial, trivial⟩,
    trivial⟩

theorem nestedScalar_and_withoutNumber_read_back :
    nestedScalar.NestsWithin 126 ∧ nestedScalar.toJson.NumbersReadBack ∧
      withoutNumber.NestsWithin 126 ∧ withoutNumber.toJson.NumbersReadBack ∧
      ofBytes? (Utf8.encode nestedScalar.json) = some nestedScalar ∧
      ofBytes? (Utf8.encode withoutNumber.json) = none := by
  have nests : nestedScalar.NestsWithin 126 :=
    ⟨⟨by decide, ⟨trivial, trivial, trivial, trivial, trivial⟩, trivial⟩, by decide⟩
  have numbers : nestedScalar.toJson.NumbersReadBack :=
    ⟨trivial, nestedScalar_numbersReadBack, trivial⟩
  exact ⟨nests, numbers, trivial, withoutNumber_numbersReadBack,
    (staged_json_reads_back nestedScalar nests numbers).1.mpr (by decide),
    (staged_json_reads_back withoutNumber trivial withoutNumber_numbersReadBack).2.1
      ⟨⟨0x7FF8000000000000⟩, by decide, by decide⟩⟩

end Entity
end GraphEngine
