import GraphEngine.Proofs.Entity.Validity

/-!
The slots of a column, one by one and all together.

Looking a slot up, walking over the defined slots and counting them agree, and a column is known by
its items: taken apart and put together again it keeps its flags and its defined values, and nothing
is left of what stood in the undefined slots.
-/
namespace GraphEngine.Attribute

variable {α : Type} {column : Attribute α} {default : α} {items : List (Option α)}
  {index : Nat}

theorem pairwise_definedSlots (column : Attribute α) :
    column.definedSlots.Pairwise fun slot later => slot.1 < later.1 := by
  have numbered : ((column.values.zip column.defined).zipIdx).Pairwise
      fun entry later => entry.2 < later.2 := by
    refine List.pairwise_map.mp ?_
    rw [List.zipIdx_map_snd]
    exact List.pairwise_lt_range'
  refine numbered.filterMap _ ?_
  rintro ⟨⟨value, isDefined⟩, index⟩ ⟨⟨value', isDefined'⟩, index'⟩ before slot passed slot' passed'
  simp only [Option.ite_none_right_eq_some, Option.some.injEq] at passed passed'
  obtain ⟨_, rfl⟩ := passed
  obtain ⟨_, rfl⟩ := passed'
  exact before

theorem length_definedSlots (aligned : column.values.length = column.defined.length) :
    column.definedSlots.length = column.definedCount := by
  have flags : (column.values.zip column.defined).zipIdx.map (Prod.snd ∘ Prod.fst)
      = column.defined := by
    rw [← List.map_map, List.zipIdx_map_fst, List.map_snd_zip (Nat.le_of_eq aligned.symm)]
  rw [definedCount, ← flags, List.countP_map, definedSlots, List.length_filterMap_eq_countP]
  refine List.countP_congr fun entry _ => ?_
  cases isDefined : entry.1.2 <;> simp [isDefined]

theorem aligned_ofOptions (default : α) (items : List (Option α)) :
    (ofOptions default items).values.length = (ofOptions default items).defined.length := by
  rw [ofOptions, List.length_map, List.length_map]

theorem getElem?_values_ofOptions :
    (ofOptions default items).values[index]? = items[index]?.map (·.getD default) :=
  List.getElem?_map

theorem get?_ofOptions (default : α) (items : List (Option α)) (index : Nat) :
    (ofOptions default items).get? index = items[index]?.join := by
  rw [get?, getElem?_values_ofOptions, ofOptions, List.getElem?_map]
  rcases items[index]? with _ | _ | value <;> rfl

/-- The items of the slots in their order; an undefined slot has none. -/
def options (column : Attribute α) : List (Option α) :=
  (List.range column.size).map column.get?

theorem getElem?_options : column.options[index]? =
    if index < column.size then some (column.get? index) else none := by
  rw [options, List.getElem?_map]
  split
  · next isSlot => rw [List.getElem?_range isSlot, Option.map_some]
  · next beyond =>
      rw [List.getElem?_eq_none (by simpa using beyond), Option.map_none]

theorem get?_of_beyond (beyond : ¬ index < column.size) : column.get? index = none := by
  have nothing : column.values[index]? = none := List.getElem?_eq_none (Nat.le_of_not_lt beyond)
  rw [get?, nothing, ite_self]

theorem options_ofOptions (default : α) (items : List (Option α)) :
    (ofOptions default items).options = items := by
  have sameSize : (ofOptions default items).size = items.length := List.length_map ..
  refine List.ext_getElem? fun index => ?_
  rw [getElem?_options, sameSize, get?_ofOptions]
  split
  · next isItem => rw [List.getElem?_eq_getElem isItem, Option.join_some]
  · next beyond => exact (List.getElem?_eq_none (Nat.le_of_not_lt beyond)).symm

theorem get?_ofOptions_options (default : α) (column : Attribute α) (index : Nat) :
    (ofOptions default column.options).get? index = column.get? index := by
  rw [get?_ofOptions, getElem?_options]
  split
  · rfl
  · next beyond => exact (get?_of_beyond beyond).symm

theorem isSome_get? (aligned : column.values.length = column.defined.length) :
    (column.get? index).isSome = column.defined[index]?.getD false := by
  unfold get?
  split
  · next isDefined =>
      obtain ⟨inside, _⟩ := List.getElem?_eq_some_iff.mp isDefined
      rw [isDefined, List.getElem?_eq_getElem (aligned ▸ inside)]
      rfl
  · next undefined =>
      cases flag : column.defined[index]? with
      | none => rfl
      | some isDefined =>
          cases isDefined with
          | true => exact absurd flag undefined
          | false => rfl

theorem defined_ofOptions_options (aligned : column.values.length = column.defined.length)
    (default : α) : (ofOptions default column.options).defined = column.defined := by
  refine List.ext_getElem? fun index => ?_
  rw [ofOptions, List.getElem?_map, getElem?_options]
  split
  · next isSlot =>
      have isFlag : index < column.defined.length := aligned ▸ isSlot
      rw [Option.map_some, isSome_get? aligned, List.getElem?_eq_getElem isFlag, Option.getD_some]
  · next beyond =>
      exact (List.getElem?_eq_none (aligned ▸ Nat.le_of_not_lt beyond)).symm

theorem getElem?_values_ofOptions_options (isSlot : index < column.size) :
    (ofOptions default column.options).values[index]? =
      some ((column.get? index).getD default) := by
  rw [getElem?_values_ofOptions, getElem?_options, if_pos isSlot, Option.map_some]

/-- The walk shows the slots that can be looked up, each once and in order, and the flags count
them. What is built from items shows just these items. A column that is built from its own items has
the same flags and the same defined values, the default in every other slot, and is built from its
own items again. -/
theorem only_defined_exposed (column : Attribute α) (default : α) (items : List (Option α)) :
    (∀ slot, slot ∈ column.definedSlots ↔ column.get? slot.1 = some slot.2) ∧
    (column.definedSlots.Pairwise fun slot later => slot.1 < later.1) ∧
    (∀ made, make column.values column.defined = .ok made →
      made = column ∧ column.definedCount = column.definedSlots.length) ∧
    make (ofOptions default items).values (ofOptions default items).defined
      = .ok (ofOptions default items) ∧
    (∀ index, (ofOptions default items).get? index = items[index]?.join) ∧
    (column.values.length = column.defined.length →
      let reset := ofOptions default column.options
      reset.defined = column.defined ∧ (∀ index, reset.get? index = column.get? index) ∧
        (∀ index < column.size,
          reset.values[index]? = some ((column.get? index).getD default)) ∧
        ofOptions default reset.options = reset) := by
  refine ⟨fun _ => mem_definedSlots, pairwise_definedSlots column, fun made isMade => ?_,
    make_eq_ok.mpr ⟨rfl, aligned_ofOptions default items⟩, get?_ofOptions default items,
    fun aligned => ?_⟩
  · obtain ⟨rfl, aligned⟩ := make_eq_ok.mp isMade
    exact ⟨rfl, (length_definedSlots aligned).symm⟩
  · intro reset
    exact ⟨defined_ofOptions_options aligned default, get?_ofOptions_options default column,
      fun _ => getElem?_values_ofOptions_options,
      congrArg (ofOptions default) (options_ofOptions ..)⟩

/-- What stands in the undefined slot gives way to the default. -/
theorem only_defined_exposed_oneUndefined :
    let column : Attribute String := ⟨["a", "b"], [true, false]⟩
    make column.values column.defined = .ok column ∧
      column.definedCount = column.definedSlots.length ∧
      column.definedSlots = [(0, "a")] ∧
      (ofOptions "" column.options).defined = [true, false] ∧
      (ofOptions "" column.options).values[1]? = some "" := by
  intro column
  have isMade : make column.values column.defined = .ok column := make_eq_ok.mpr ⟨rfl, rfl⟩
  obtain ⟨_, _, counts, _, _, resets⟩ := only_defined_exposed column "" []
  obtain ⟨flags, _, values, _⟩ := resets rfl
  exact ⟨isMade, (counts _ isMade).2, by decide, flags, values 1 (by decide)⟩

end GraphEngine.Attribute
