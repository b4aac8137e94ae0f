import GraphEngine.Entity.Basic

/-!
What the checks of entities let through, and the slots of a column.
-/
namespace GraphEngine

theorem Entity.validate_eq_ok {entity : Entity} :
    entity.validate = .ok () ↔ entity.fault? = none := by
  unfold validate
  cases entity.fault? <;> simp

theorem VertexSet.contains_eq_true {vertices : VertexSet} {index : Int64} :
    vertices.contains index = true ↔ 0 ≤ index.toInt ∧ index.toInt < vertices.size := by
  simp [contains, Int64.le_iff_toInt_le]

namespace EdgeBundle

variable {sources targets externalIds : List Int64} {bundle : EdgeBundle}

/-- The sequences fit together, and every end is an index of something. -/
theorem fault?_eq_none : bundle.fault? = none ↔
    bundle.sources.length = bundle.targets.length ∧
      bundle.sources.length = bundle.externalIds.length ∧
      ∀ index ∈ bundle.sources ++ bundle.targets, 0 ≤ index.toInt := by
  have indices : (bundle.sources ++ bundle.targets).find? (· < 0) = none ↔
      ∀ index ∈ bundle.sources ++ bundle.targets, 0 ≤ index.toInt := by
    simp only [List.find?_eq_none, decide_eq_true_eq, Int64.lt_iff_toInt_lt, Int64.toInt_zero,
      Int.not_lt]
  unfold fault?
  split
  · next differ =>
      refine ⟨nofun, fun ⟨sameTargets, sameIds, _⟩ => ?_⟩
      exact absurd differ (by simp [← sameTargets, ← sameIds])
  · next same =>
      rw [not_or, Decidable.not_not, Decidable.not_not] at same
      rw [Option.map_eq_none_iff, indices]
      exact ⟨fun nonneg => ⟨same.1, same.2, nonneg⟩, fun fits => fits.2.2⟩

theorem make_eq_ok : make sources targets externalIds = .ok bundle ↔
    bundle = ⟨sources, targets, externalIds⟩ ∧ bundle.fault? = none := by
  unfold make
  dsimp only
  split
  · next cause faulty =>
      refine ⟨nofun, ?_⟩
      rintro ⟨rfl, valid⟩
      cases valid.symm.trans faulty
  · next valid =>
      constructor
      · rintro ⟨⟩
        exact ⟨rfl, valid⟩
      · rintro ⟨rfl, _⟩
        rfl

/-- As an unsigned word an end is the number that it is. -/
theorem toNat_toUInt64_of_nonneg {index : Int64} (nonneg : 0 ≤ index.toInt) :
    (index.toUInt64.toNat : Int) = index.toInt := by
  rw [Int64.toNat_toUInt64_of_le (Int64.le_iff_toInt_le.mpr (by simpa using nonneg))]
  exact Int.toNat_of_nonneg nonneg

end EdgeBundle

namespace Attribute

variable {α : Type} {column : Attribute α}

theorem fault?_eq_none : column.fault? = none ↔
    column.values.length = column.defined.length := by
  unfold fault?
  split <;> simp_all

theorem make_eq_ok {values : List α} {defined : List Bool} : make values defined = .ok column ↔
    column = ⟨values, defined⟩ ∧ values.length = defined.length := by
  have aligned : fault? ⟨values, defined⟩ = none ↔ values.length = defined.length :=
    fault?_eq_none
  unfold make
  dsimp only
  split
  · next cause faulty =>
      refine ⟨nofun, fun ⟨_, sameLength⟩ => ?_⟩
      cases (aligned.mpr sameLength).symm.trans faulty
  · next valid =>
      constructor
      · rintro ⟨⟩
        exact ⟨rfl, aligned.mp valid⟩
      · rintro ⟨rfl, _⟩
        rfl

theorem mem_definedSlots {slot : Nat × α} :
    slot ∈ column.definedSlots ↔ column.get? slot.1 = some slot.2 := by
  obtain ⟨index, value⟩ := slot
  simp only [definedSlots, List.mem_filterMap, Prod.exists, List.mem_zipIdx_iff_getElem?,
    List.getElem?_zip_eq_some, get?]
  constructor
  · rintro ⟨found, isDefined, index, ⟨stands, flagged⟩, passed⟩
    cases isDefined with
    | false => cases passed
    | true =>
        cases passed
        rw [if_pos flagged, stands]
  · intro found
    split at found
    · next flagged => exact ⟨value, true, index, ⟨found, flagged⟩, rfl⟩
    · cases found

end Attribute
end GraphEngine
