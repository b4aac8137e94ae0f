import GraphEngine.Guid

/-!
Maps that are kept in the order of their keys, and the lists of their entries.
-/
namespace GraphEngine.Maps

open Std

variable {α β γ : Type} {cmp : α → α → Ordering} [TransCmp cmp]

theorem mem_iff_exists {map : ExtTreeMap α β cmp} {key : α} :
    key ∈ map ↔ ∃ value, map[key]? = some value := by
  rw [ExtTreeMap.mem_iff_isSome_getElem?, Option.isSome_iff_exists]

theorem values_eq_map_snd (map : ExtTreeMap α β cmp) :
    map.values = map.toList.map Prod.snd := by
  obtain ⟨⟨map⟩⟩ := map
  induction map using Quotient.ind with
  | _ map =>
      change map.inner.values
        = (DTreeMap.Internal.Impl.Const.toList map.inner).map Prod.snd
      rw [DTreeMap.Internal.Impl.values_eq_map_snd,
        DTreeMap.Internal.Impl.Const.toList_eq_toListModel_map, List.map_map]
      rfl

theorem mem_values [LawfulEqCmp cmp] {map : ExtTreeMap α β cmp} {value : β} :
    value ∈ map.values ↔ ∃ key : α, map[key]? = some value := by
  rw [values_eq_map_snd, List.mem_map]
  constructor
  · rintro ⟨⟨key, _⟩, listed, rfl⟩
    exact ⟨key, ExtTreeMap.mem_toList_iff_getElem?_eq_some.mp listed⟩
  · rintro ⟨key, found⟩
    exact ⟨(key, value), ExtTreeMap.mem_toList_iff_getElem?_eq_some.mpr found, rfl⟩

/-- Entries under the keys of a map make a map that holds just these entries. -/
theorem getElem?_ofList [LawfulEqCmp cmp] [BEq α] [LawfulBEq α] [LawfulBEqCmp cmp]
    {map : ExtTreeMap α β cmp} {entries : List (α × γ)}
    (sameKeys : entries.map Prod.fst = map.toList.map Prod.fst) {key : α} {value : γ} :
    (ExtTreeMap.ofList entries cmp)[key]? = some value ↔ (key, value) ∈ entries := by
  have distinct : entries.Pairwise fun a b => ¬ cmp a.1 b.1 = .eq := by
    have keys : (entries.map Prod.fst).Pairwise fun a b => ¬ cmp a b = .eq := by
      rw [sameKeys, List.pairwise_map]
      exact ExtTreeMap.distinct_keys_toList
    exact List.pairwise_map.mp keys
  constructor
  · intro found
    have held : key ∈ ExtTreeMap.ofList entries cmp := mem_iff_exists.mpr ⟨value, found⟩
    obtain ⟨⟨key, entry⟩, listed, rfl⟩ :=
      List.exists_of_mem_map (List.contains_iff_mem.mp (ExtTreeMap.mem_ofList.mp held))
    have stands := ExtTreeMap.getElem?_ofList_of_mem ReflCmp.compare_self distinct listed
    rw [stands] at found
    cases found
    exact listed
  · intro listed
    exact ExtTreeMap.getElem?_ofList_of_mem ReflCmp.compare_self distinct listed

theorem ofList_toList [LawfulEqCmp cmp] [BEq α] [LawfulBEq α] [LawfulBEqCmp cmp]
    (map : ExtTreeMap α β cmp) : ExtTreeMap.ofList map.toList cmp = map := by
  refine ExtTreeMap.ext_getElem? fun key => Option.ext fun value => ?_
  rw [getElem?_ofList rfl, ExtTreeMap.mem_toList_iff_getElem?_eq_some]

section All

variable [LawfulEqCmp cmp] {P : α → β → Prop} {map : ExtTreeMap α β cmp}

theorem all_insert {key : α} {value : β} (own : P key value)
    (others : ∀ {key : α} {value : β}, map[key]? = some value → P key value) {key' : α}
    {value' : β} (found : (map.insert key value)[key']? = some value') : P key' value' := by
  rw [ExtTreeMap.getElem?_insert] at found
  split at found
  · next same =>
      cases found
      exact (LawfulEqCmp.eq_of_compare same) ▸ own
  · exact others found

theorem all_insertMany {entries : List (α × β)} (listed : ∀ entry ∈ entries, P entry.1 entry.2)
    (others : ∀ {key : α} {value : β}, map[key]? = some value → P key value) {key : α} {value : β}
    (found : (map.insertMany entries)[key]? = some value) : P key value := by
  induction entries generalizing map with
  | nil => exact others found
  | cons entry rest ih =>
      rw [ExtTreeMap.insertMany_cons] at found
      exact ih (fun other inRest => listed other (List.mem_cons_of_mem _ inRest))
        (all_insert (listed entry List.mem_cons_self) others) found

end All

section Many

variable {map other : ExtTreeMap α β cmp} {entries later : List (α × β)} {key : α}

/-- What stands under a key afterwards depends on what stood under it before, and on no other. -/
theorem getElem?_insertMany_congr (same : map[key]? = other[key]?) :
    (map.insertMany entries)[key]? = (other.insertMany entries)[key]? := by
  induction entries generalizing map other with
  | nil => exact same
  | cons entry rest ih =>
      rw [ExtTreeMap.insertMany_cons, ExtTreeMap.insertMany_cons]
      refine ih ?_
      rw [ExtTreeMap.getElem?_insert, ExtTreeMap.getElem?_insert, same]

/-- Of several entries under a key the last one stays. -/
theorem getElem?_insertMany [BEq α] [LawfulBEq α] [LawfulEqCmp cmp] :
    (map.insertMany entries)[key]? = (entries.reverse.lookup key).or map[key]? := by
  induction entries generalizing map with
  | nil => rfl
  | cons entry rest ih =>
      obtain ⟨first, value⟩ := entry
      rw [ExtTreeMap.insertMany_cons, ih, List.reverse_cons, List.lookup_append, Option.or_assoc,
        ExtTreeMap.getElem?_insert]
      congr 1
      by_cases same : cmp first key = .eq
      · rw [if_pos same, LawfulEqCmp.eq_of_compare same, List.lookup_cons_self]
        rfl
      · have other : key ≠ first := by
          rintro rfl
          exact same ReflCmp.compare_self
        rw [if_neg same, List.lookup_cons, beq_eq_false_iff_ne.mpr other]
        rfl

/-- Under a key of the entries stands what they say, whatever was there before. -/
theorem getElem?_insertMany_of_mem (listed : key ∈ entries.map Prod.fst) :
    (map.insertMany entries)[key]? = (other.insertMany entries)[key]? := by
  induction entries generalizing map other with
  | nil => cases listed
  | cons entry rest ih =>
      rw [ExtTreeMap.insertMany_cons, ExtTreeMap.insertMany_cons]
      by_cases inRest : key ∈ rest.map Prod.fst
      · exact ih inRest
      · have first : key = entry.1 := by
          rw [List.map_cons, List.mem_cons] at listed
          exact listed.resolve_right inRest
        refine getElem?_insertMany_congr ?_
        rw [first, ExtTreeMap.getElem?_insert_self, ExtTreeMap.getElem?_insert_self]

variable [LawfulEqCmp cmp]

theorem getElem?_insertMany_of_not_mem (others : key ∉ entries.map Prod.fst) :
    (map.insertMany entries)[key]? = map[key]? := by
  induction entries generalizing map with
  | nil => rfl
  | cons entry rest ih =>
      rw [List.map_cons, List.mem_cons, not_or] at others
      rw [ExtTreeMap.insertMany_cons, ih others.2, ExtTreeMap.getElem?_insert,
        if_neg fun same => others.1 (LawfulEqCmp.eq_of_compare same).symm]

theorem insertMany_comm (apart : ∀ key ∈ entries.map Prod.fst, key ∉ later.map Prod.fst) :
    (map.insertMany entries).insertMany later = (map.insertMany later).insertMany entries := by
  refine ExtTreeMap.ext_getElem? fun key => ?_
  by_cases isLater : key ∈ later.map Prod.fst
  · have notEarlier : key ∉ entries.map Prod.fst := fun listed => apart key listed isLater
    rw [getElem?_insertMany_of_not_mem notEarlier,
      getElem?_insertMany_congr (getElem?_insertMany_of_not_mem notEarlier)]
  · rw [getElem?_insertMany_of_not_mem isLater,
      getElem?_insertMany_congr (getElem?_insertMany_of_not_mem isLater)]

theorem insertMany_insertMany_self :
    (map.insertMany entries).insertMany entries = map.insertMany entries := by
  refine ExtTreeMap.ext_getElem? fun key => ?_
  by_cases listed : key ∈ entries.map Prod.fst
  · exact getElem?_insertMany_of_mem listed
  · exact getElem?_insertMany_of_not_mem listed

/-- Some of the entries of a map are put into another, each under its own key. -/
theorem getElem?_insertMany_front [BEq α] [LawfulBEqCmp cmp] {P : α → Prop} [DecidablePred P]
    {source : ExtTreeMap α β cmp}
    (distinct : entries.Pairwise fun entry later => ¬ cmp entry.1 later.1 = .eq)
    (listed : ∀ {key : α} {value : β},
      (key, value) ∈ entries ↔ source[key]? = some value ∧ P key) :
    (map.insertMany entries)[key]? = if P key then source[key]?.or map[key]? else map[key]? := by
  by_cases isFront : key ∈ entries.map Prod.fst
  · obtain ⟨⟨_, value⟩, isListed, rfl⟩ := List.mem_map.mp isFront
    obtain ⟨bound, holds⟩ := listed.mp isListed
    rw [if_pos holds, bound, Option.some_or]
    exact ExtTreeMap.getElem?_insertMany_list_of_mem ReflCmp.compare_self distinct isListed
  · rw [getElem?_insertMany_of_not_mem isFront]
    split
    · next holds =>
        cases bound : source[key]? with
        | none => rfl
        | some value =>
            exact absurd (List.mem_map.mpr ⟨_, listed.mpr ⟨bound, holds⟩, rfl⟩) isFront
    · rfl

end Many

end GraphEngine.Maps
