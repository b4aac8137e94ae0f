import GraphEngine.Proofs.Entity.Validity

/-!
Edges between two vertex sets.

The check of bounds and the walk over the edges see the same pairs, for as long as both sequences
last. A negative end is refused by the check although as an unsigned word it is a large number, so
after the check an edge is walked as the very numbers that the sequences hold.
-/
namespace GraphEngine

namespace EdgeBundle

variable {sourceSet targetSet : VertexSet} {bundle : EdgeBundle}

/-- Both ends of the edge are indices of their sets. -/
def EndsWithin (sourceSet targetSet : VertexSet) (edge : Int64 × Int64) : Prop :=
  (0 ≤ edge.1.toInt ∧ edge.1.toInt < sourceSet.size) ∧
    (0 ≤ edge.2.toInt ∧ edge.2.toInt < targetSet.size)

instance (sourceSet targetSet : VertexSet) (edge : Int64 × Int64) :
    Decidable (EndsWithin sourceSet targetSet edge) :=
  inferInstanceAs (Decidable (_ ∧ _))

/-- Of the pairs the one at this index is the first with an end outside its set. -/
structure FirstStray (sourceSet targetSet : VertexSet) (pairs : List (Int64 × Int64))
    (index : Nat) (edge : Int64 × Int64) : Prop where
  stands : pairs[index]? = some edge
  outside : ¬ EndsWithin sourceSet targetSet edge
  earlier : ∀ (before : Nat) (other : Int64 × Int64), before < index →
    pairs[before]? = some other → EndsWithin sourceSet targetSet other

section Pairs

variable {edge first : Int64 × Int64} {rest pairs : List (Int64 × Int64)} {start index : Nat}

theorem firstStray_zero : FirstStray sourceSet targetSet (first :: rest) 0 edge ↔
    first = edge ∧ ¬ EndsWithin sourceSet targetSet first := by
  constructor
  · rintro ⟨stands, outside, _⟩
    cases stands
    exact ⟨rfl, outside⟩
  · rintro ⟨rfl, outside⟩
    exact ⟨rfl, outside, fun _ _ before => absurd before (Nat.not_lt_zero _)⟩

theorem firstStray_succ : FirstStray sourceSet targetSet (first :: rest) (index + 1) edge ↔
    EndsWithin sourceSet targetSet first ∧ FirstStray sourceSet targetSet rest index edge := by
  constructor
  · rintro ⟨stands, outside, earlier⟩
    exact ⟨earlier 0 first (Nat.succ_pos index) rfl, stands, outside,
      fun before other isBefore => earlier (before + 1) other (Nat.succ_lt_succ isBefore)⟩
  · rintro ⟨within, stands, outside, earlier⟩
    refine ⟨stands, outside, fun before other isBefore found => ?_⟩
    cases before with
    | zero =>
        cases found
        exact within
    | succ before => exact earlier before other (Nat.lt_of_succ_lt_succ isBefore) found

/-- The first pair is passed over, or it is the one that is looked for. -/
theorem firstOutside_cons :
    firstOutside sourceSet targetSet start (first :: rest) = some (index, edge) ↔
    (EndsWithin sourceSet targetSet first ∧
      firstOutside sourceSet targetSet (start + 1) rest = some (index, edge)) ∨
    (start = index ∧ first = edge ∧ ¬ EndsWithin sourceSet targetSet first) := by
  obtain ⟨source, target⟩ := first
  have held : (sourceSet.contains source && targetSet.contains target) = true ↔
      EndsWithin sourceSet targetSet (source, target) := by
    rw [Bool.and_eq_true, VertexSet.contains_eq_true, VertexSet.contains_eq_true, EndsWithin]
  rw [firstOutside]
  by_cases within : EndsWithin sourceSet targetSet (source, target)
  · simp [held.mpr within, within]
  · simp [mt held.mp within, within]

theorem firstOutside_eq_some : firstOutside sourceSet targetSet start pairs = some (index, edge) ↔
    ∃ place, index = start + place ∧ FirstStray sourceSet targetSet pairs place edge := by
  induction pairs generalizing start with
  | nil => exact ⟨nofun, fun ⟨_, _, stray⟩ => nomatch stray.stands⟩
  | cons first rest ih =>
      rw [firstOutside_cons, ih]
      constructor
      · rintro (⟨within, place, rfl, stray⟩ | ⟨rfl, same, outside⟩)
        · exact ⟨place + 1, by omega, firstStray_succ.mpr ⟨within, stray⟩⟩
        · exact ⟨0, rfl, firstStray_zero.mpr ⟨same, outside⟩⟩
      · rintro ⟨place, rfl, stray⟩
        cases place with
        | zero => exact .inr ⟨rfl, firstStray_zero.mp stray⟩
        | succ place =>
            obtain ⟨within, later⟩ := firstStray_succ.mp stray
            exact .inl ⟨within, place, by omega, later⟩

theorem firstOutside_eq_none (start : Nat) :
    firstOutside sourceSet targetSet start pairs = none ↔
    ∀ edge ∈ pairs, EndsWithin sourceSet targetSet edge := by
  induction pairs generalizing start with
  | nil => simp [firstOutside]
  | cons first rest ih =>
      rw [List.forall_mem_cons, ← ih (start + 1), Option.eq_none_iff_forall_ne_some,
        Option.eq_none_iff_forall_ne_some]
      constructor
      · intro nowhere
        have within : EndsWithin sourceSet targetSet first :=
          Classical.byContradiction fun outside =>
            nowhere (start, first) (firstOutside_cons.mpr (.inr ⟨rfl, rfl, outside⟩))
        exact ⟨within, fun found inRest =>
          nowhere found (firstOutside_cons.mpr (.inl ⟨within, inRest⟩))⟩
      · rintro ⟨within, nowhere⟩ found isFirst
        rcases firstOutside_cons.mp isFirst with ⟨_, inRest⟩ | ⟨_, _, outside⟩
        · exact nowhere found inRest
        · exact outside within

end Pairs

theorem checkBounds_eq_ok : bundle.checkBounds sourceSet targetSet = .ok () ↔
    ∀ edge ∈ bundle.sources.zip bundle.targets, EndsWithin sourceSet targetSet edge := by
  rw [← firstOutside_eq_none 0, checkBounds]
  split
  · next found => simp [found]
  · next nowhere => simp [nowhere]

theorem checkBounds_eq_error {error : EngineError} :
    bundle.checkBounds sourceSet targetSet = .error error ↔ ∃ index source target,
      FirstStray sourceSet targetSet (bundle.sources.zip bundle.targets) index (source, target) ∧
        error = .corruptEntity (.outsideSets index source target sourceSet.size targetSet.size) := by
  have first {index : Nat} {edge : Int64 × Int64} :
      firstOutside sourceSet targetSet 0 (bundle.sources.zip bundle.targets) = some (index, edge) ↔
        FirstStray sourceSet targetSet (bundle.sources.zip bundle.targets) index edge := by
    rw [firstOutside_eq_some]
    simp
  rw [checkBounds]
  split
  · next index source target found =>
      constructor
      · rintro ⟨⟩
        exact ⟨index, source, target, first.mp found, rfl⟩
      · rintro ⟨index', source', target', stray, rfl⟩
        cases found.symm.trans (first.mpr stray)
        rfl
  · next nowhere =>
      refine ⟨nofun, ?_⟩
      rintro ⟨index, source, target, stray, _⟩
      cases nowhere.symm.trans (first.mpr stray)

theorem getElem?_edges {index : Nat} : bundle.edges[index]? =
    (bundle.sources.zip bundle.targets)[index]?.map
      fun edge => (edge.1.toUInt64, edge.2.toUInt64) :=
  List.getElem?_map

/-- The signed ends can be told from the unsigned ones, so the check sees no more than the walk. -/
theorem zip_eq_map_edges (bundle : EdgeBundle) : bundle.sources.zip bundle.targets =
    bundle.edges.map fun ends => (ends.1.toInt64, ends.2.toInt64) := by
  rw [edges, List.map_map]
  exact (List.map_id' _).symm

theorem checkBounds_congr {other : EdgeBundle} (same : other.edges = bundle.edges)
    (sourceSet targetSet : VertexSet) :
    other.checkBounds sourceSet targetSet = bundle.checkBounds sourceSet targetSet := by
  rw [checkBounds, checkBounds, zip_eq_map_edges, zip_eq_map_edges, same]

/-- What the walk gives at the index are the numbers in the two sequences, both inside. -/
structure Lands (bundle : EdgeBundle) (sourceSet targetSet : VertexSet) (index : Nat)
    (ends : UInt64 × UInt64) : Prop where
  source : ∃ source, bundle.sources[index]? = some source ∧ (ends.1.toNat : Int) = source.toInt
  target : ∃ target, bundle.targets[index]? = some target ∧ (ends.2.toNat : Int) = target.toInt
  sourceInside : ends.1.toNat < sourceSet.size
  targetInside : ends.2.toNat < targetSet.size

theorem lands_iff {index : Nat} {edge : Int64 × Int64}
    (stands : (bundle.sources.zip bundle.targets)[index]? = some edge) :
    Lands bundle sourceSet targetSet index (edge.1.toUInt64, edge.2.toUInt64) ↔
      EndsWithin sourceSet targetSet edge := by
  obtain ⟨isSource, isTarget⟩ := List.getElem?_zip_eq_some.mp stands
  constructor
  · rintro ⟨⟨source, foundSource, sameSource⟩, ⟨target, foundTarget, sameTarget⟩, below, belowToo⟩
    cases foundSource.symm.trans isSource
    cases foundTarget.symm.trans isTarget
    dsimp only at *
    exact ⟨by omega, by omega⟩
  · rintro ⟨⟨sourceNonneg, sourceBelow⟩, targetNonneg, targetBelow⟩
    have sameSource := toNat_toUInt64_of_nonneg sourceNonneg
    have sameTarget := toNat_toUInt64_of_nonneg targetNonneg
    exact ⟨⟨_, isSource, sameSource⟩, ⟨_, isTarget, sameTarget⟩, by dsimp only; omega,
      by dsimp only; omega⟩

/-- Whatever the bundle is, the check passes just when every edge of the walk lands. -/
theorem checkBounds_eq_ok_iff_lands : bundle.checkBounds sourceSet targetSet = .ok () ↔
    ∀ (index : Nat) (ends : UInt64 × UInt64), bundle.edges[index]? = some ends →
      Lands bundle sourceSet targetSet index ends := by
  rw [checkBounds_eq_ok]
  constructor
  · intro within index ends walked
    rw [getElem?_edges, Option.map_eq_some_iff] at walked
    obtain ⟨edge, stands, rfl⟩ := walked
    exact (lands_iff stands).mpr (within edge (List.mem_of_getElem? stands))
  · intro lands edge listed
    obtain ⟨index, stands⟩ := List.mem_iff_getElem?.mp listed
    refine (lands_iff stands).mp (lands index _ ?_)
    rw [getElem?_edges, stands]
    rfl

/-- In a bundle that has been made no end is left out and none is negative. -/
theorem checkBounds_eq_ok_of_valid (valid : bundle.fault? = none) :
    bundle.checkBounds sourceSet targetSet = .ok () ↔
      (∀ source ∈ bundle.sources, source.toInt < sourceSet.size) ∧
        ∀ target ∈ bundle.targets, target.toInt < targetSet.size := by
  obtain ⟨sameLength, _, nonneg⟩ := fault?_eq_none.mp valid
  have eachSource := List.map_fst_zip (Nat.le_of_eq sameLength)
  have eachTarget := List.map_snd_zip (Nat.le_of_eq sameLength.symm)
  rw [checkBounds_eq_ok]
  constructor
  · intro within
    constructor
    · intro source listed
      rw [← eachSource] at listed
      obtain ⟨edge, isEdge, rfl⟩ := List.mem_map.mp listed
      exact (within edge isEdge).1.2
    · intro target listed
      rw [← eachTarget] at listed
      obtain ⟨edge, isEdge, rfl⟩ := List.mem_map.mp listed
      exact (within edge isEdge).2.2
  · rintro ⟨sourcesBelow, targetsBelow⟩ ⟨source, target⟩ listed
    obtain ⟨isSource, isTarget⟩ := List.of_mem_zip listed
    exact ⟨⟨nonneg _ (List.mem_append_left _ isSource), sourcesBelow _ isSource⟩,
      nonneg _ (List.mem_append_right _ isTarget), targetsBelow _ isTarget⟩

theorem length_edges_of_valid (valid : bundle.fault? = none) :
    bundle.edges.length = bundle.size := by
  rw [edges, List.length_map, List.length_zip, ← (fault?_eq_none.mp valid).1, Nat.min_self, size]

/-- A bundle is made of sequences that fit together, and once its bounds are checked each of its
edges is walked as the numbers that it is. Of a bundle that was not made so the same is true for as
long as both sequences last: the check looks at what is walked, and at nothing else. -/
theorem checked_edges_land (sources targets externalIds : List Int64)
    (sourceSet targetSet : VertexSet) :
    let bundle : EdgeBundle := ⟨sources, targets, externalIds⟩
    ((∃ made, make sources targets externalIds = .ok made) ↔
      sources.length = targets.length ∧ sources.length = externalIds.length ∧
        ∀ index ∈ sources ++ targets, 0 ≤ index.toInt) ∧
    (∀ made, make sources targets externalIds = .ok made → made = bundle ∧
      (bundle.checkBounds sourceSet targetSet = .ok () ↔
        (∀ source ∈ sources, source.toInt < sourceSet.size) ∧
          ∀ target ∈ targets, target.toInt < targetSet.size) ∧
      bundle.edges.length = bundle.size) ∧
    (bundle.checkBounds sourceSet targetSet = .ok () ↔
      ∀ (index : Nat) (ends : UInt64 × UInt64), bundle.edges[index]? = some ends →
        Lands bundle sourceSet targetSet index ends) ∧
    (∀ error, bundle.checkBounds sourceSet targetSet = .error error ↔ ∃ index source target,
      FirstStray sourceSet targetSet (sources.zip targets) index (source, target) ∧
        error = .corruptEntity
          (.outsideSets index source target sourceSet.size targetSet.size)) ∧
    ∀ other : EdgeBundle, other.edges = bundle.edges →
      other.checkBounds sourceSet targetSet = bundle.checkBounds sourceSet targetSet := by
  intro bundle
  refine ⟨?_, fun made isMade => ?_, checkBounds_eq_ok_iff_lands, fun _ => checkBounds_eq_error,
    fun _ same => checkBounds_congr same sourceSet targetSet⟩
  · refine Iff.trans ?_ (fault?_eq_none : bundle.fault? = none ↔ _)
    constructor
    · rintro ⟨made, isMade⟩
      obtain ⟨rfl, valid⟩ := make_eq_ok.mp isMade
      exact valid
    · exact fun valid => ⟨bundle, make_eq_ok.mpr ⟨rfl, valid⟩⟩
  · obtain ⟨rfl, valid⟩ := make_eq_ok.mp isMade
    exact ⟨rfl, checkBounds_eq_ok_of_valid valid, length_edges_of_valid valid⟩

/-- Two edges between two vertices. Where the least number stands for an end, the check stops there,
and what only one of the sequences holds is not looked at. -/
theorem checked_edges_land_twoWay :
    let vertices : VertexSet := ⟨[7, 8]⟩
    let bundle : EdgeBundle := ⟨[0, 1], [1, 0], [5, 6]⟩
    let unfit : EdgeBundle := ⟨[0, Int64.minValue], [1, 0, 9], []⟩
    make [0, 1] [1, 0] [5, 6] = .ok bundle ∧ bundle.checkBounds vertices vertices = .ok () ∧
      Lands bundle vertices vertices 1 (1, 0) ∧
      unfit.checkBounds vertices vertices
        = .error (.corruptEntity (.outsideSets 1 Int64.minValue 0 2 2)) := by
  intro vertices bundle unfit
  obtain ⟨_, made, lands, _⟩ := checked_edges_land [0, 1] [1, 0] [5, 6] vertices vertices
  obtain ⟨_, _, _, fails, _⟩ :=
    checked_edges_land [0, Int64.minValue] [1, 0, 9] [] vertices vertices
  have isMade : make [0, 1] [1, 0] [5, 6] = .ok bundle := make_eq_ok.mpr ⟨rfl, by decide⟩
  have passes : bundle.checkBounds vertices vertices = .ok () :=
    (made _ isMade).2.1.mpr (by simp [vertices, VertexSet.size])
  refine ⟨isMade, passes, lands.mp passes 1 _ rfl, (fails _).mpr ⟨1, Int64.minValue, 0, ?_, rfl⟩⟩
  exact firstStray_succ.mpr ⟨by decide, firstStray_zero.mpr ⟨rfl, by decide⟩⟩

end EdgeBundle
end GraphEngine
