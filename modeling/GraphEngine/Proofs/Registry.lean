import GraphEngine.Proofs.Text.Order
import GraphEngine.Registry
import Mathlib.Data.List.Induction
import Mathlib.Data.List.Nodup

/-!
Operations registered one after another.

A registry holds just the operations that were registered, each under its own name, and nothing is
left of the order in which they came. Registering ends at the first name that is taken already.
-/
namespace GraphEngine.Registry

variable {registry next other : Registry} {name asked : String} {operation : Program Unit}
  {operations more : List (String × Program Unit)} {names rest : List String}
  {error : EngineError}

theorem register_eq_ok : registry.register name operation = .ok next ↔
    registry.contains name = false ∧ next = ⟨registry.operations.insert name operation⟩ := by
  unfold register
  cases registry.contains name <;> simp [eq_comm]

theorem register_eq_error : registry.register name operation = .error error ↔
    registry.contains name = true ∧ error = .duplicateOperation name := by
  unfold register
  cases registry.contains name <;> simp [eq_comm]

theorem get?_of_register (registered : registry.register name operation = .ok next) :
    next.get? asked = if name = asked then some operation else registry.get? asked := by
  obtain ⟨_, rfl⟩ := register_eq_ok.mp registered
  simp only [get?, Std.ExtTreeMap.getElem?_insert, Std.compare_eq_iff_eq]

theorem isSome_get? : (registry.get? name).isSome = registry.contains name := by
  rw [get?, contains, Std.ExtTreeMap.contains_eq_isSome_getElem?]

/-- The registry knows these operations, each by its name, and no others. -/
structure Holds (registry : Registry) (operations : List (String × Program Unit)) : Prop where
  distinct : (operations.map Prod.fst).Nodup
  get?_eq_some : ∀ {name : String} {body : Program Unit},
    registry.get? name = some body ↔ (name, body) ∈ operations

namespace Holds

theorem nil : empty.Holds [] where
  distinct := List.nodup_nil
  get?_eq_some := by simp [get?, empty]

theorem contains_eq_true (holds : registry.Holds operations) :
    registry.contains name = true ↔ name ∈ operations.map Prod.fst := by
  simp only [← isSome_get?, Option.isSome_iff_exists, holds.get?_eq_some, List.mem_map,
    Prod.exists, exists_eq_right, exists_and_right]

theorem register (holds : registry.Holds operations) (operation : Program Unit)
    (free : name ∉ operations.map Prod.fst) :
    ∃ next, registry.register name operation = .ok next ∧
      next.Holds (operations ++ [(name, operation)]) := by
  have isFree : registry.contains name = false := by
    rw [← Bool.not_eq_true, holds.contains_eq_true]
    exact free
  have registered : registry.register name operation = .ok _ :=
    register_eq_ok.mpr ⟨isFree, rfl⟩
  refine ⟨_, registered, ?_, fun {asked body} => ?_⟩
  · rw [List.map_append, List.map_singleton, ← List.concat_eq_append, List.nodup_concat]
    exact ⟨free, holds.distinct⟩
  · rw [get?_of_register registered, List.mem_append, List.mem_singleton, ← holds.get?_eq_some]
    by_cases same : name = asked
    · subst same
      have unknown : registry.get? name ≠ some body := fun found =>
        free (List.mem_map.mpr ⟨_, holds.get?_eq_some.mp found, rfl⟩)
      simp [unknown, eq_comm]
    · simp [same, Ne.symm same]

theorem register_taken (holds : registry.Holds operations)
    (taken : name ∈ operations.map Prod.fst) :
    registry.register name operation = .error (.duplicateOperation name) :=
  register_eq_error.mpr ⟨holds.contains_eq_true.mpr taken, rfl⟩

/-- What is held is all there is to a registry. -/
theorem unique (holds : registry.Holds operations) (others : other.Holds operations) :
    registry = other := by
  have sameOperations : registry.operations = other.operations :=
    Std.ExtTreeMap.ext_getElem? fun _ => Option.ext fun _ =>
      holds.get?_eq_some.trans others.get?_eq_some.symm
  cases registry
  cases other
  cases sameOperations
  rfl

theorem perm (holds : registry.Holds operations) (reordered : operations.Perm more) :
    registry.Holds more where
  distinct := (reordered.map Prod.fst).nodup_iff.mp holds.distinct
  get?_eq_some := holds.get?_eq_some.trans reordered.mem_iff

end Holds

theorem names_ordered (registry : Registry) :
    registry.names.Pairwise fun name later => Utf8.encode name < Utf8.encode later :=
  Std.ExtTreeMap.ordered_keys.imp Utf8.compare_eq_lt.mp

theorem mem_names : name ∈ registry.names ↔ registry.contains name = true := by
  rw [names, contains, Std.ExtTreeMap.mem_keys, Std.ExtTreeMap.contains_iff_mem]

theorem Holds.names_perm (holds : registry.Holds operations) :
    registry.names.Perm (operations.map Prod.fst) := by
  have distinct : registry.names.Nodup := by
    refine registry.names_ordered.imp ?_
    rintro name _ before rfl
    exact List.lt_irrefl _ before
  rw [List.perm_ext_iff_of_nodup distinct holds.distinct]
  exact fun name => mem_names.trans holds.contains_eq_true

theorem Holds.size_eq (holds : registry.Holds operations) : registry.size = operations.length := by
  have counted := holds.names_perm.length_eq
  rwa [names, Std.ExtTreeMap.length_keys, List.length_map] at counted

theorem ofList_append_cons (built : ofList operations = .ok registry)
    (operation : String × Program Unit) (more : List (String × Program Unit)) :
    ofList (operations ++ operation :: more)
      = registry.register operation.1 operation.2 >>= fun next =>
        more.foldlM (fun registry operation => registry.register operation.1 operation.2) next := by
  rw [ofList] at built ⊢
  rw [List.foldlM_append, built]
  rfl

theorem exists_holds (distinct : (operations.map Prod.fst).Nodup) :
    ∃ registry, ofList operations = .ok registry ∧ registry.Holds operations := by
  -- From the end, as the last operation meets the registry that those before it have made.
  induction operations using List.reverseRecOn with
  | nil => exact ⟨empty, rfl, .nil⟩
  | append_singleton front last ih =>
      rw [List.map_append, List.map_singleton, ← List.concat_eq_append, List.nodup_concat]
        at distinct
      obtain ⟨free, inFront⟩ := distinct
      obtain ⟨registry, built, holds⟩ := ih inFront
      obtain ⟨next, registered, holdsNext⟩ := holds.register last.2 free
      refine ⟨next, ?_, holdsNext⟩
      rw [ofList_append_cons built, registered]
      rfl

/-- The first of the names that repeats an earlier one. -/
def IsFirstRepeat (names : List String) (name : String) : Prop :=
  ∃ before after, names = before ++ name :: after ∧ before.Nodup ∧ name ∈ before

theorem IsFirstRepeat.append (repeats : IsFirstRepeat names name) :
    IsFirstRepeat (names ++ rest) name := by
  obtain ⟨before, after, rfl, distinct, taken⟩ := repeats
  exact ⟨before, after ++ rest, by rw [List.append_assoc, List.cons_append], distinct, taken⟩

theorem exists_isFirstRepeat (repeated : ¬ names.Nodup) : ∃ name, IsFirstRepeat names name := by
  induction names using List.reverseRecOn with
  | nil => exact absurd List.nodup_nil repeated
  | append_singleton front last ih =>
      by_cases distinct : front.Nodup
      · have taken : last ∈ front := by
          rw [← List.concat_eq_append, List.nodup_concat] at repeated
          exact Decidable.not_not.mp fun free => repeated ⟨free, distinct⟩
        exact ⟨last, front, [], rfl, distinct, taken⟩
      · obtain ⟨name, repeats⟩ := ih distinct
        exact ⟨name, repeats.append⟩

theorem ofList_of_isFirstRepeat (repeats : IsFirstRepeat (operations.map Prod.fst) name) :
    ofList operations = .error (.duplicateOperation name) := by
  obtain ⟨before, after, split, distinct, taken⟩ := repeats
  obtain ⟨front, behind, rfl, rfl, isBehind⟩ := List.map_eq_append_iff.mp split
  obtain ⟨operation, others, rfl, rfl, _⟩ := List.map_eq_cons_iff.mp isBehind
  obtain ⟨registry, built, holds⟩ := exists_holds distinct
  rw [ofList_append_cons built, holds.register_taken taken]
  rfl

theorem ofList_cases (operations : List (String × Program Unit)) :
    (∃ registry, ofList operations = .ok registry ∧ registry.Holds operations) ∨
      ∃ name, ofList operations = .error (.duplicateOperation name) ∧
        IsFirstRepeat (operations.map Prod.fst) name := by
  by_cases distinct : (operations.map Prod.fst).Nodup
  · exact .inl (exists_holds distinct)
  · obtain ⟨name, repeats⟩ := exists_isFirstRepeat distinct
    exact .inr ⟨name, ofList_of_isFirstRepeat repeats, repeats⟩

theorem ofList_eq_ok : ofList operations = .ok registry ↔ registry.Holds operations := by
  constructor
  · intro built
    rcases ofList_cases operations with ⟨other, otherBuilt, holds⟩ | ⟨_, fails, _⟩
    · cases built.symm.trans otherBuilt
      exact holds
    · cases built.symm.trans fails
  · intro holds
    obtain ⟨other, built, others⟩ := exists_holds holds.distinct
    rw [built, holds.unique others]

theorem ofList_eq_error : ofList operations = .error error ↔
    ∃ name, error = .duplicateOperation name ∧
      IsFirstRepeat (operations.map Prod.fst) name := by
  constructor
  · intro refused
    rcases ofList_cases operations with ⟨_, built, _⟩ | ⟨name, fails, repeats⟩
    · cases refused.symm.trans built
    · cases refused.symm.trans fails
      exact ⟨name, rfl, repeats⟩
  · rintro ⟨name, rfl, repeats⟩
    exact ofList_of_isFirstRepeat repeats

/-- Whatever the command of the helper is, the built-in operations can be registered. -/
theorem standard_eq_ok (command : List String) :
    Registry.standard command = .ok ((Registry.standard command).toOption.getD .empty) := by
  have names : (builtIn command).map Prod.fst
      = ["ExampleGraph", "OneHotEncoder", "OutDegree", "Node2Vec"] := rfl
  have distinct : ((builtIn command).map Prod.fst).Nodup := by
    rw [names]
    decide
  obtain ⟨registry, built, _⟩ := exists_holds distinct
  rw [standard, built]
  rfl

theorem get?_of_standard {command : List String}
    (offers : Registry.standard command = .ok registry) :
    ∀ operation ∈ builtIn command, registry.get? operation.1 = some operation.2 :=
  fun _ listed => (ofList_eq_ok.mp offers).get?_eq_some.mpr listed

/-- Operations can be registered if their names are distinct, and else the first name that is given
again is refused. The registry then answers for these operations, each under its name and the names
in the order of their bytes, and it is the same in whatever order they were registered. -/
theorem registration_by_name (operations : List (String × Program Unit)) :
    ((∃ registry, ofList operations = .ok registry) ↔ (operations.map Prod.fst).Nodup) ∧
    (∀ error, ofList operations = .error error ↔
      ∃ name, error = .duplicateOperation name ∧
        IsFirstRepeat (operations.map Prod.fst) name) ∧
    (∀ registry, ofList operations = .ok registry →
      (registry.names.Pairwise fun name later => Utf8.encode name < Utf8.encode later) ∧
      registry.names.Perm (operations.map Prod.fst) ∧
      registry.size = operations.length ∧
      (∀ name, registry.contains name = true ↔ name ∈ operations.map Prod.fst) ∧
      ∀ name body, registry.get? name = some body ↔ (name, body) ∈ operations) ∧
    ∀ reordered, reordered.Perm operations → ∀ registry,
      ofList reordered = .ok registry ↔ ofList operations = .ok registry := by
  refine ⟨⟨?_, ?_⟩, fun _ => ofList_eq_error, fun registry built => ?_,
    fun reordered same registry => ?_⟩
  · rintro ⟨registry, built⟩
    exact (ofList_eq_ok.mp built).distinct
  · intro distinct
    obtain ⟨registry, built, _⟩ := exists_holds distinct
    exact ⟨registry, built⟩
  · have holds := ofList_eq_ok.mp built
    exact ⟨registry.names_ordered, holds.names_perm, holds.size_eq,
      fun _ => holds.contains_eq_true, fun _ _ => holds.get?_eq_some⟩
  · rw [ofList_eq_ok, ofList_eq_ok]
    exact ⟨fun holds => holds.perm same, fun holds => holds.perm same.symm⟩

/-- The operation that is registered last stands second among the names. Given again in the
opposite order, it is the first to be refused. -/
theorem registration_by_name_builtIn :
    let operations := builtIn ["helper"]
    ∃ registry, ofList operations = .ok registry ∧
      registry.names = ["ExampleGraph", "Node2Vec", "OneHotEncoder", "OutDegree"] ∧
      registry.size = 4 ∧ registry.contains "outdegree" = false ∧
      registry.get? "Node2Vec" = some (Operation.Node2Vec.body ["helper"]) ∧
      operations.reverse.Perm operations ∧ ofList operations.reverse = .ok registry ∧
      ofList (operations ++ operations.reverse) = .error (.duplicateOperation "Node2Vec") := by
  intro operations
  obtain ⟨registers, _, answers, reorders⟩ := registration_by_name operations
  obtain ⟨registry, built⟩ := registers.mpr (by decide)
  obtain ⟨ordered, sameNames, size, contains, gets⟩ := answers registry built
  have inOrder : ["ExampleGraph", "Node2Vec", "OneHotEncoder", "OutDegree"].Pairwise
      fun name later => Utf8.encode name < Utf8.encode later := by decide +kernel
  have listed : registry.names.Perm ["ExampleGraph", "Node2Vec", "OneHotEncoder", "OutDegree"] :=
    sameNames.trans (by decide)
  have unknown : registry.contains "outdegree" = false := by
    rw [← Bool.not_eq_true, contains]
    decide
  have reversed : operations.reverse.Perm operations := List.reverse_perm operations
  have repeats : IsFirstRepeat ((operations ++ operations.reverse).map Prod.fst) "Node2Vec" :=
    ⟨operations.map Prod.fst, _, rfl, by decide, by decide⟩
  refine ⟨registry, built, listed.eq_of_pairwise (fun _ _ _ _ before after => ?_) ordered inOrder,
    size, unknown, (gets _ _).mpr (by simp [operations, builtIn]), reversed,
    (reorders _ reversed registry).mpr built,
    ((registration_by_name _).2.1 _).mpr ⟨_, rfl, repeats⟩⟩
  exact absurd after (List.lt_asymm before)

end GraphEngine.Registry
