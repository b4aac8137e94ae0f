import GraphEngine.Operation.OutDegree
import GraphEngine.Proofs.Entity.Validity
import GraphEngine.Proofs.Session.Kinds
import Mathlib.Algebra.BigOperators.Group.Finset.Basic

/-!
The number of edges that leave each vertex.

The degrees are those that a walk over the edges leaves, where each edge adds one to the slot of its
source. The sources are checked before, so each of them has a slot.
-/
namespace GraphEngine.Operation.OutDegree

variable {vertices : VertexSet} {bundle : EdgeBundle} {sources : List Int64}

/-- One is added as many times. -/
def added (count : Nat) (degree : Double) : Double := Nat.repeat (· + Double.one) count degree

theorem added_succ (count : Nat) (degree : Double) :
    added (count + 1) degree = added count (degree + .one) := by
  induction count with
  | zero => rfl
  | succ count ih => exact congrArg (· + Double.one) ih

/-- The degrees after these edges, unless a source has no slot. -/
def tally (degrees : List Double) : List (UInt64 × UInt64) → Option (List Double)
  | [] => some degrees
  | (source, _) :: rest =>
      match degrees[source.toNat]? with
      | some degree => tally (degrees.set source.toNat (degree + .one)) rest
      | none => none

/-- What has been added to a slot are as many ones as edges have left its vertex. -/
theorem tally_eq_some {edges : List (UInt64 × UInt64)} {degrees : List Double}
    (inside : ∀ edge ∈ edges, edge.1.toNat < degrees.length) :
    tally degrees edges = some (degrees.mapIdx fun vertex degree =>
      added (edges.countP (·.1.toNat = vertex)) degree) := by
  induction edges generalizing degrees with
  | nil =>
      refine congrArg some (List.ext_getElem? fun vertex => ?_)
      rw [List.getElem?_mapIdx]
      exact Option.map_id'.symm
  | cons edge rest ih =>
      obtain ⟨here, others⟩ := List.forall_mem_cons.mp inside
      have stands : degrees[edge.1.toNat]? = some degrees[edge.1.toNat] :=
        List.getElem?_eq_getElem here
      simp only [tally, stands]
      rw [ih (by simpa using others)]
      refine congrArg some (List.ext_getElem? fun vertex => ?_)
      rw [List.getElem?_mapIdx, List.getElem?_mapIdx, List.countP_cons]
      by_cases isHere : edge.1.toNat = vertex
      · cases isHere
        simp [here, added_succ]
      · simp [isHere]

/-- Every source is one of the vertices. -/
def Within (vertices : VertexSet) (sources : List Int64) : Prop :=
  ∀ source ∈ sources, source.toInt < vertices.size

/-- The first source that is none of the vertices. -/
def FirstOutside (vertices : VertexSet) (sources : List Int64) (source : Int64) : Prop :=
  ∃ before after, sources = before ++ source :: after ∧ Within vertices before ∧
    vertices.size ≤ source.toInt

/-- The number of edges that leave the vertex. -/
def outgoing (sources : List Int64) (vertex : Nat) : Nat :=
  sources.countP fun source => source.toInt = (vertex : Int)

theorem exists_firstOutside (outside : ¬ Within vertices sources) :
    ∃ source, FirstOutside vertices sources source := by
  induction sources with
  | nil => exact absurd (fun _ listed => nomatch listed) outside
  | cons source rest ih =>
      by_cases inside : source.toInt < vertices.size
      · obtain ⟨first, before, after, split, earlier, isOutside⟩ :=
          ih fun others => outside (List.forall_mem_cons.mpr ⟨inside, others⟩)
        exact ⟨first, source :: before, after, by rw [split, List.cons_append],
          List.forall_mem_cons.mpr ⟨inside, earlier⟩, isOutside⟩
      · exact ⟨source, [], rest, rfl, (fun _ listed => nomatch listed), by omega⟩

/-- Each source is one of the vertices, and counts for no other. -/
theorem sum_outgoing (within : Within vertices sources)
    (nonneg : ∀ source ∈ sources, 0 ≤ source.toInt) :
    ∑ vertex ∈ Finset.range vertices.size, outgoing sources vertex = sources.length := by
  induction sources with
  | nil => simp [outgoing]
  | cons source rest ih =>
      obtain ⟨isNonneg, othersNonneg⟩ := List.forall_mem_cons.mp nonneg
      obtain ⟨inside, others⟩ := List.forall_mem_cons.mp within
      have once : ∑ vertex ∈ Finset.range vertices.size,
          (if source.toInt = (vertex : Int) then 1 else 0) = 1 := by
        have same (vertex : Nat) : source.toInt = (vertex : Int) ↔ source.toInt.toNat = vertex := by
          omega
        simp only [same, Finset.sum_ite_eq, Finset.mem_range]
        exact if_pos (by omega)
      have counted := ih others othersNonneg
      simp only [outgoing] at counted
      simp only [outgoing, List.countP_cons, decide_eq_true_eq, Finset.sum_add_distrib, once,
        counted, List.length_cons]

theorem toInt_nonneg (valid : bundle.fault? = none) {source : Int64}
    (listed : source ∈ bundle.sources) : 0 ≤ source.toInt :=
  (EdgeBundle.fault?_eq_none.mp valid).2.2 source (List.mem_append_left _ listed)

theorem contains_iff (valid : bundle.fault? = none) {source : Int64}
    (listed : source ∈ bundle.sources) :
    vertices.contains source = true ↔ source.toInt < vertices.size := by
  rw [VertexSet.contains_eq_true]
  exact and_iff_right (toInt_nonneg valid listed)

theorem find?_of_within (valid : bundle.fault? = none)
    (within : Within vertices bundle.sources) :
    bundle.sources.find? (! vertices.contains ·) = none := by
  refine List.find?_eq_none.mpr fun source listed => ?_
  simpa using (contains_iff valid listed).mpr (within source listed)

theorem find?_of_firstOutside (valid : bundle.fault? = none) {source : Int64}
    (first : FirstOutside vertices bundle.sources source) :
    bundle.sources.find? (! vertices.contains ·) = some source := by
  obtain ⟨before, after, split, inside, outside⟩ := first
  have isListed : source ∈ bundle.sources := by simp [split]
  have unheld : ¬ vertices.contains source = true := by
    rw [contains_iff valid isListed]
    omega
  refine List.find?_eq_some_iff_append.mpr ⟨by simpa using unheld, before, after, split, ?_⟩
  intro earlier isBefore
  have listed : earlier ∈ bundle.sources := split ▸ List.mem_append_left _ isBefore
  simpa using (contains_iff valid listed).mpr (inside earlier isBefore)

theorem sources_of_valid (valid : bundle.fault? = none) :
    (bundle.sources.zip bundle.targets).map Prod.fst = bundle.sources :=
  List.map_fst_zip (EdgeBundle.fault?_eq_none.mp valid).1.le

theorem edges_fst (valid : bundle.fault? = none) :
    bundle.edges.map Prod.fst = bundle.sources.map Int64.toUInt64 := by
  rw [← sources_of_valid valid, EdgeBundle.edges, List.map_map, List.map_map]
  rfl

/-- As an unsigned word a source is the number that it is. -/
theorem toNat_toUInt64 (valid : bundle.fault? = none) {source : Int64}
    (listed : source ∈ bundle.sources) : (source.toUInt64.toNat : Int) = source.toInt :=
  EdgeBundle.toNat_toUInt64_of_nonneg (toInt_nonneg valid listed)

theorem countP_edges (valid : bundle.fault? = none) (vertex : Nat) :
    bundle.edges.countP (·.1.toNat = vertex) = outgoing bundle.sources vertex := by
  have ofEdges : bundle.edges.countP (·.1.toNat = vertex)
      = (bundle.edges.map Prod.fst).countP (·.toNat = vertex) := by
    rw [List.countP_map]
    rfl
  rw [ofEdges, edges_fst valid, List.countP_map, outgoing]
  refine List.countP_congr fun source listed => ?_
  have same := toNat_toUInt64 valid listed
  simp only [Function.comp_apply, decide_eq_true_eq]
  omega

/-- The degrees of the operation are those that are counted edge by edge. -/
theorem tally_edges (valid : bundle.fault? = none) (within : Within vertices bundle.sources) :
    tally (List.replicate vertices.size Double.zero) bundle.edges
      = some (degrees vertices bundle) := by
  have inside : ∀ edge ∈ bundle.edges,
      edge.1.toNat < (List.replicate vertices.size Double.zero).length := by
    intro edge passed
    have isSource : edge.1 ∈ bundle.sources.map Int64.toUInt64 :=
      edges_fst valid ▸ List.mem_map_of_mem passed
    obtain ⟨source, listed, same⟩ := List.mem_map.mp isSource
    have number := toNat_toUInt64 valid listed
    have isInside := within source listed
    rw [← same, List.length_replicate]
    omega
  rw [tally_eq_some inside]
  refine congrArg some (List.ext_getElem (by simp [degrees]) fun vertex _ _ => ?_)
  simp only [List.getElem_mapIdx, List.getElem_replicate, countP_edges valid, degrees,
    sources_of_valid valid, List.getElem_map, List.getElem_range]
  rfl

/-- What the degrees of the vertices are. -/
structure Counts (vertices : VertexSet) (bundle : EdgeBundle) (column : Attribute Double) :
    Prop where
  size : column.size = vertices.size
  flags : column.defined = List.replicate vertices.size true
  slot : ∀ vertex < vertices.size, column.get? vertex
    = some (Nat.repeat (· + Double.one) (outgoing bundle.sources vertex) Double.zero)
  steps : tally (List.replicate vertices.size Double.zero) bundle.edges = some column.values
  once : ∀ source ∈ bundle.sources, ∃! vertex : Nat,
    vertex < vertices.size ∧ source.toInt = (vertex : Int)
  all : ∑ vertex ∈ Finset.range vertices.size, outgoing bundle.sources vertex = bundle.size

theorem counts_degrees (valid : bundle.fault? = none)
    (within : Within vertices bundle.sources) :
    Counts vertices bundle ⟨degrees vertices bundle, List.replicate vertices.size true⟩ where
  size := by simp [Attribute.size, degrees]
  flags := rfl
  slot := by
    intro vertex inside
    have flagged : (List.replicate vertices.size true)[vertex]? = some true := by
      rw [List.getElem?_replicate, if_pos inside]
    rw [Attribute.get?, if_pos flagged]
    simp only [degrees, sources_of_valid valid, List.getElem?_map, List.getElem?_range inside]
    rfl
  steps := tally_edges valid within
  once := by
    intro source listed
    have inside := within source listed
    have nonneg := toInt_nonneg valid listed
    refine ⟨source.toInt.toNat, ⟨by omega, by omega⟩, ?_⟩
    rintro vertex ⟨_, same⟩
    omega
  all := sum_outgoing within fun _ listed => toInt_nonneg valid listed

/-- The session gives these vertices and edges, and takes the degrees. -/
structure Gives (session : Session) (vertices : VertexSet) (bundle : EdgeBundle) : Prop where
  sources : ∃ guid, session.inputs["src"]? = some (guid, .vertexSet vertices)
  edges : ∃ guid, session.inputs["es"]? = some (guid, .edgeBundle bundle)
  output : session.hasOutput "outDegree" = true

theorem run_outside {session : Session} {progress : Progress} {source : Int64}
    (gives : Gives session vertices bundle) (valid : bundle.fault? = none)
    (first : FirstOutside vertices bundle.sources source) :
    session.run body progress
      = (.error (.corruptEntity (.outsideSources source vertices.size)), progress) := by
  obtain ⟨⟨_, src⟩, ⟨_, es⟩, _⟩ := gives
  simp only [body, Session.run_bind, Session.run_vertexSet src, Session.run_edgeBundle es,
    find?_of_firstOutside valid first]
  rfl

theorem run_within {session : Session} {progress : Progress}
    (gives : Gives session vertices bundle) (valid : bundle.fault? = none)
    (within : Within vertices bundle.sources) :
    session.run body progress = (.ok (), { progress with
      outputs := progress.outputs.insert "outDegree" (.doubleAttribute
        ⟨degrees vertices bundle, List.replicate vertices.size true⟩) }) := by
  obtain ⟨⟨_, src⟩, ⟨_, es⟩, declared⟩ := gives
  have made : Attribute.make (degrees vertices bundle) (List.replicate vertices.size true)
      = .ok ⟨degrees vertices bundle, List.replicate vertices.size true⟩ :=
    Attribute.make_eq_ok.mpr ⟨rfl, by simp [degrees]⟩
  simp only [body, Session.run_bind, Session.run_vertexSet src, Session.run_edgeBundle es,
    find?_of_within valid within, made, Session.run_ofExcept, Session.run_output declared]

/-- The order of the edges does not matter, nor do their targets. -/
theorem degrees_congr {other : EdgeBundle} (valid : bundle.fault? = none)
    (otherValid : other.fault? = none) (same : other.sources.Perm bundle.sources) :
    degrees vertices other = degrees vertices bundle := by
  simp only [degrees, sources_of_valid valid, sources_of_valid otherValid, same.countP_eq]

/-- The degrees are counted if and only if every edge leaves one of the vertices. Else the first
source that is none of them is the error, and nothing has changed. -/
theorem run_counts (vertices : VertexSet) (bundle : EdgeBundle)
    (valid : (Entity.edgeBundle bundle).validate = .ok ()) :
    (∀ session, Gives session vertices bundle → ∀ progress,
      (session.run body progress).1 = .ok () ↔ Within vertices bundle.sources) ∧
    (Within vertices bundle.sources → ∃ column, Counts vertices bundle column ∧
      ∀ other : EdgeBundle, (Entity.edgeBundle other).validate = .ok () →
        other.sources.Perm bundle.sources →
        ∀ session, Gives session vertices other → ∀ progress : Progress,
          session.run body progress = (.ok (), { progress with
            outputs := progress.outputs.insert "outDegree" (.doubleAttribute column) })) ∧
    (¬ Within vertices bundle.sources →
      ∃ source, FirstOutside vertices bundle.sources source ∧
        ∀ session, Gives session vertices bundle → ∀ progress : Progress,
          session.run body progress
            = (.error (.corruptEntity (.outsideSources source vertices.size)), progress)) := by
  have isValid := Entity.validate_eq_ok.mp valid
  refine ⟨fun session gives progress => ⟨fun succeeds => ?_, fun within => ?_⟩,
    fun within => ?_, fun outside => ?_⟩
  · by_contra outside
    obtain ⟨source, first⟩ := exists_firstOutside outside
    rw [run_outside gives isValid first] at succeeds
    cases succeeds
  · rw [run_within gives isValid within]
  · refine ⟨_, counts_degrees isValid within, ?_⟩
    intro other otherValid same session gives progress
    have isOtherValid := Entity.validate_eq_ok.mp otherValid
    have otherWithin : Within vertices other.sources :=
      fun source listed => within source (same.subset listed)
    rw [run_within gives isOtherValid otherWithin, degrees_congr isValid isOtherValid same]
  · obtain ⟨source, first⟩ := exists_firstOutside outside
    exact ⟨source, first, fun session gives progress => run_outside gives isValid first⟩

def repeated (sources : List Int64) : EdgeBundle := ⟨sources, [1, 2, 0, 0], [6, 7, 8, 9]⟩

def counting (vertices : VertexSet) (bundle : EdgeBundle) : Session where
  descriptor := (Descriptor.ofName "OutDegree").withOutput "outDegree" ⟨"o"⟩
  inputs := ((∅ : Std.ExtTreeMap String (Guid × Entity)).insert "src"
    (⟨"v"⟩, .vertexSet vertices)).insert "es" (⟨"e"⟩, .edgeBundle bundle)
  staging := ⟨"staging", ["staging"]⟩
  helper := fun files _ => (.finished 0 [] [], files)

theorem gives_counting (vertices : VertexSet) (bundle : EdgeBundle) :
    Gives (counting vertices bundle) vertices bundle where
  sources := by
    refine ⟨⟨"v"⟩, ?_⟩
    rw [counting, Std.ExtTreeMap.getElem?_insert, if_neg (by decide)]
    exact Std.ExtTreeMap.getElem?_insert_self
  edges := ⟨⟨"e"⟩, Std.ExtTreeMap.getElem?_insert_self⟩
  output := by
    simp only [counting, Session.hasOutput]
    decide +kernel

theorem run_counts_repeatedSource :
    (∃ column, Counts ⟨[5, 6, 7]⟩ (repeated [0, 0, 2, 0]) column ∧
      column.values = [⟨0x4008000000000000⟩, .zero, .one] ∧
      ∀ sources ∈ [[0, 0, 2, 0], [2, 0, 0, 0]],
        (counting ⟨[5, 6, 7]⟩ (repeated sources)).run body ⟨∅, .empty, []⟩
          = (.ok (), ⟨(∅ : Outputs).insert "outDegree" (.doubleAttribute column), .empty, []⟩)) ∧
    (counting ⟨[5, 6]⟩ (repeated [0, 0, 2, 0])).run body ⟨∅, .empty, []⟩
      = (.error (.corruptEntity (.outsideSources 2 2)), ⟨∅, .empty, []⟩) := by
  constructor
  · obtain ⟨_, counted, _⟩ := run_counts ⟨[5, 6, 7]⟩ (repeated [0, 0, 2, 0]) (by decide)
    have inside : (repeated [0, 0, 2, 0]).sources.all
        (VertexSet.contains ⟨[5, 6, 7]⟩ ·) = true := by decide +kernel
    obtain ⟨column, counts, runs⟩ := counted fun source listed =>
      (contains_iff (by decide) listed).mp (List.all_eq_true.mp inside source listed)
    refine ⟨column, counts, ?_, fun sources listed => ?_⟩
    · have computed : tally (List.replicate 3 Double.zero) (repeated [0, 0, 2, 0]).edges
          = some [⟨0x4008000000000000⟩, .zero, .one] := by decide +kernel
      exact Option.some.inj (counts.steps.symm.trans computed)
    · have both : ∀ sources ∈ [[0, 0, 2, 0], [2, 0, 0, 0]],
          (Entity.edgeBundle (repeated sources)).validate = .ok () ∧
            sources.Perm [0, 0, 2, 0] := by decide
      obtain ⟨valid, same⟩ := both sources listed
      exact runs _ valid same _ (gives_counting ..) _
  · obtain ⟨_, _, refused⟩ := run_counts ⟨[5, 6]⟩ (repeated [0, 0, 2, 0]) (by decide)
    have isThird : (repeated [0, 0, 2, 0]).sources.find?
        (! VertexSet.contains ⟨[5, 6]⟩ ·) = some 2 := by decide +kernel
    obtain ⟨source, first, runs⟩ := refused fun within =>
      nomatch (find?_of_within (by decide) within).symm.trans isThird
    cases (find?_of_firstOutside (by decide) first).symm.trans isThird
    exact runs _ (gives_counting ..) _

end GraphEngine.Operation.OutDegree
