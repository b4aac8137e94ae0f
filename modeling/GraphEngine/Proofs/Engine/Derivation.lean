import GraphEngine.Engine
import GraphEngine.Proofs.Maps
import GraphEngine.Proofs.Result
import GraphEngine.Proofs.Text.Order

/-!
Id sets that are derived from edge bundles.

The loop reads the map that it writes. Names are handled in their order, in which a bundle comes
before its id set, so what stands under the name of a bundle is what the body left there unless
that name is the name of an id set too, and then it is a vertex set.
-/
namespace GraphEngine

namespace Affix

theorem before?_eq_some_iff {ending text start : String} :
    before? ending text = some start ↔ text = start ++ ending := by
  unfold before?
  constructor
  · intro h
    split at h
    · next isSuffix =>
        obtain ⟨front, whole⟩ := List.isSuffixOf_iff_suffix.mp isSuffix
        have length : text.length - ending.length = front.length := by
          rw [← String.length_toList, ← String.length_toList, ← whole, List.length_append]
          omega
        rw [length, ← whole, List.take_left', Option.some.injEq] at h
        · rw [← h, ← String.toList_inj, String.toList_append, String.toList_ofList, whole]
        · rfl
    · cases h
  · rintro rfl
    rw [if_pos (List.isSuffixOf_iff_suffix.mpr ⟨start.toList, by rw [String.toList_append]⟩)]
    have length : (start ++ ending).length - ending.length = start.toList.length := by
      rw [String.length_append, String.length_toList]
      omega
    rw [length, String.toList_append, List.take_left' rfl, String.ofList_toList]

end Affix

namespace Engine

variable {slots : Slots} {outputs current : Outputs} {bundle name : String}

/-- The bundle is declared, has not the name of an id set, and was handed over. -/
def Derivable (slots : Slots) (outputs : Outputs) (bundle : String) : Prop :=
  bundle ∈ slots ∧ (∀ other, bundle ≠ other ++ idSetEnding) ∧
    ∃ edges, outputs[bundle]? = some (.edgeBundle edges)

/-- What the loop finds where it looks for a bundle. -/
def standing (outputs : Outputs) (bundle : String) : String :=
  match Affix.before? idSetEnding bundle with
  | some _ => Kind.vertexSet.name
  | none =>
      match outputs[bundle]? with
      | some entity => entity.kind.name
      | none => "no output"

/-- Why no id set is derived from a bundle. -/
def refusal (slots : Slots) (outputs : Outputs) (bundle : String) : EngineError :=
  match slots[bundle]? with
  | some guid => .typeMismatch guid .edgeBundle (standing outputs bundle)
  | none => .unknownOutput bundle

/-- The id sets with names in the list are derived, and everything else is as it was. -/
structure Derived (slots : Slots) (outputs : Outputs) (names : List String) (current : Outputs) :
    Prop where
  derivable : ∀ {bundle}, bundle ++ idSetEnding ∈ names → Derivable slots outputs bundle
  idSets : ∀ {bundle edges}, bundle ++ idSetEnding ∈ names →
    outputs[bundle]? = some (.edgeBundle edges) →
      current[bundle ++ idSetEnding]? = some (.vertexSet ⟨edges.externalIds⟩)
  others : ∀ {name}, ¬ (name ∈ names ∧ ∃ bundle, name = bundle ++ idSetEnding) →
    current[name]? = outputs[name]?

theorem compare_append_idSetEnding (bundle : String) :
    compare bundle (bundle ++ idSetEnding) = .lt := by
  rw [Utf8.compare_eq_lt, Utf8.encode_lt_encode, String.lt_iff, String.toList_append]
  have longer : bundle.toList ++ [] < bundle.toList ++ idSetEnding.toList :=
    List.append_left_lt (by decide)
  rwa [List.append_nil] at longer

/-- A declared name that comes before another has been handled when the other is. -/
theorem mem_of_lt {done rest : List String} {other : String}
    (keys : slots.keys = done ++ name :: rest) (declared : other ∈ slots)
    (before : compare other name = .lt) : other ∈ done := by
  have listed : other ∈ done ++ name :: rest := keys ▸ Std.ExtTreeMap.mem_keys.mpr declared
  have sorted : (done ++ name :: rest).Pairwise fun a b => compare a b = .lt :=
    keys ▸ Std.ExtTreeMap.ordered_keys
  rcases List.mem_append.mp listed with inDone | inRest
  · exact inDone
  rcases List.mem_cons.mp inRest with rfl | later
  · rw [Std.ReflOrd.compare_self] at before
    cases before
  · have after : compare name other = .lt :=
      List.rel_of_pairwise_cons (List.pairwise_append.mp sorted).2.1 later
    rw [Std.OrientedOrd.eq_swap, after] at before
    cases before

namespace Derived

/-- What stands under a declared bundle when its id set is to be derived. -/
theorem current_eq {done rest : List String} (h : Derived slots outputs done current)
    (keys : slots.keys = done ++ (bundle ++ idSetEnding) :: rest) (declared : bundle ∈ slots) :
    (∃ other, bundle = other ++ idSetEnding ∧
        ∃ vertices, current[bundle]? = some (.vertexSet vertices)) ∨
      (∀ other, bundle ≠ other ++ idSetEnding) ∧ current[bundle]? = outputs[bundle]? := by
  by_cases isIdSet : ∃ other, bundle = other ++ idSetEnding
  · obtain ⟨other, rfl⟩ := isIdSet
    have handled := mem_of_lt keys declared (compare_append_idSetEnding _)
    obtain ⟨_, _, edges, found⟩ := h.derivable handled
    exact .inl ⟨other, rfl, _, h.idSets handled found⟩
  · refine .inr ⟨not_exists.mp isIdSet, h.others ?_⟩
    exact fun handled => isIdSet handled.2

theorem skip {done : List String} (h : Derived slots outputs done current)
    (noIdSet : ∀ bundle, name ≠ bundle ++ idSetEnding) :
    Derived slots outputs (done ++ [name]) current := by
  have before : ∀ {bundle}, bundle ++ idSetEnding ∈ done ++ [name] →
      bundle ++ idSetEnding ∈ done := by
    intro bundle listed
    rcases List.mem_append.mp listed with inDone | last
    · exact inDone
    · exact absurd (List.mem_singleton.mp last).symm (noIdSet bundle)
  refine ⟨fun listed => h.derivable (before listed), fun listed => h.idSets (before listed),
    fun untouched => h.others ?_⟩
  rintro ⟨listed, isIdSet⟩
  exact untouched ⟨List.mem_append_left _ listed, isIdSet⟩

theorem insert {done : List String} {edges : EdgeBundle} (h : Derived slots outputs done current)
    (derivable : Derivable slots outputs bundle)
    (found : outputs[bundle]? = some (.edgeBundle edges)) :
    Derived slots outputs (done ++ [bundle ++ idSetEnding])
      (current.insert (bundle ++ idSetEnding) (.vertexSet ⟨edges.externalIds⟩)) := by
  have same : ∀ {other}, other ++ idSetEnding = bundle ++ idSetEnding → other = bundle :=
    fun names => (String.append_left_inj idSetEnding).mp names
  refine ⟨fun {other} listed => ?_, fun {other others} listed stands => ?_,
    fun {other} untouched => ?_⟩
  · rcases List.mem_append.mp listed with inDone | last
    · exact h.derivable inDone
    · rw [same (List.mem_singleton.mp last)]
      exact derivable
  · rw [Std.ExtTreeMap.getElem?_insert]
    split
    · next names =>
        cases same (Std.LawfulEqOrd.eq_of_compare names).symm
        cases found.symm.trans stands
        rfl
    · next differ =>
        refine h.idSets ?_ stands
        rcases List.mem_append.mp listed with inDone | last
        · exact inDone
        · rw [List.mem_singleton.mp last] at differ
          exact absurd Std.ReflOrd.compare_self differ
  · rw [Std.ExtTreeMap.getElem?_insert, if_neg, h.others]
    · rintro ⟨listed, isIdSet⟩
      exact untouched ⟨List.mem_append_left _ listed, isIdSet⟩
    · intro names
      rw [← Std.LawfulEqOrd.eq_of_compare names] at untouched
      exact untouched ⟨List.mem_append_right _ (List.mem_singleton_self _), bundle, rfl⟩

/-- One name: its id set is derived, or it is refused. -/
theorem step {done rest : List String} (h : Derived slots outputs done current)
    (keys : slots.keys = done ++ name :: rest) :
    (∃ next, deriveIdSet slots current name = .ok next ∧
        Derived slots outputs (done ++ [name]) next) ∨
      ∃ bundle, name = bundle ++ idSetEnding ∧ ¬ Derivable slots outputs bundle ∧
        deriveIdSet slots current name = .error (refusal slots outputs bundle) := by
  cases cut : Affix.before? idSetEnding name with
  | none =>
      refine .inl ⟨current, by simp only [deriveIdSet, cut], h.skip fun bundle same => ?_⟩
      rw [Affix.before?_eq_some_iff.mpr same] at cut
      cases cut
  | some bundle =>
      obtain rfl := Affix.before?_eq_some_iff.mp cut
      cases bound : slots[bundle]? with
      | none =>
          refine .inr ⟨bundle, rfl, fun derivable => ?_, by
            simp only [deriveIdSet, cut, refusal, bound]⟩
          obtain ⟨guid, found⟩ := Maps.mem_iff_exists.mp derivable.1
          cases bound.symm.trans found
      | some guid =>
          have declared : bundle ∈ slots := Maps.mem_iff_exists.mpr ⟨guid, bound⟩
          rcases h.current_eq keys declared with
            ⟨other, isIdSet, vertices, stands⟩ | ⟨noIdSet, same⟩
          · refine .inr ⟨bundle, rfl, fun derivable => derivable.2.1 other isIdSet, ?_⟩
            simp only [deriveIdSet, cut, refusal, standing, bound, stands,
              Affix.before?_eq_some_iff.mpr isIdSet]
            rfl
          · have notCut : Affix.before? idSetEnding bundle = none := by
              refine Option.eq_none_iff_forall_ne_some.mpr fun other isIdSet => ?_
              exact noIdSet other (Affix.before?_eq_some_iff.mp isIdSet)
            have missing : (∀ edges, outputs[bundle]? ≠ some (.edgeBundle edges)) →
                ¬ Derivable slots outputs bundle :=
              fun none derivable => derivable.2.2.elim none
            cases stands : outputs[bundle]? with
            | none =>
                refine .inr ⟨bundle, rfl, missing (by simp [stands]), ?_⟩
                simp only [deriveIdSet, cut, refusal, standing, bound, same, notCut, stands]
            | some entity =>
                cases entity with
                | edgeBundle edges =>
                    refine .inl ⟨_, ?_, h.insert ⟨declared, noIdSet, edges, stands⟩ stands⟩
                    simp only [deriveIdSet, cut, bound, same, stands]
                | _ =>
                    refine .inr ⟨bundle, rfl, missing (by simp [stands]), ?_⟩
                    simp only [deriveIdSet, cut, refusal, standing, bound, same, notCut, stands]
                    rfl

/-- All names: their id sets are derived, or the first that cannot be is refused. -/
theorem run {done rest : List String} (h : Derived slots outputs done current)
    (keys : slots.keys = done ++ rest) :
    (∃ derived, rest.foldlM (deriveIdSet slots) current = .ok derived ∧
        Derived slots outputs slots.keys derived) ∨
      ∃ before bundle after, slots.keys = before ++ (bundle ++ idSetEnding) :: after ∧
        (∀ other, other ++ idSetEnding ∈ before → Derivable slots outputs other) ∧
          ¬ Derivable slots outputs bundle ∧
            rest.foldlM (deriveIdSet slots) current = .error (refusal slots outputs bundle) := by
  induction rest generalizing done current with
  | nil =>
      rw [List.append_nil] at keys
      exact .inl ⟨current, rfl, keys ▸ h⟩
  | cons name rest ih =>
      rw [List.foldlM_cons]
      rcases h.step keys with ⟨next, derives, derived⟩ | ⟨bundle, rfl, refused, refuses⟩
      · rw [derives]
        exact ih derived (by rw [keys, List.append_assoc, List.singleton_append])
      · refine .inr ⟨done, bundle, rest, keys, fun _ => h.derivable, refused, ?_⟩
        rw [refuses]
        rfl

end Derived

theorem derived_start (slots : Slots) (outputs : Outputs) : Derived slots outputs [] outputs where
  derivable := fun listed => by cases listed
  idSets := fun listed => by cases listed
  others := fun _ => rfl

theorem derived_of_deriveIdSets {derived : Outputs}
    (h : deriveIdSets slots outputs = .ok derived) : Derived slots outputs slots.keys derived := by
  rcases (derived_start slots outputs).run (List.nil_append _).symm with
    ⟨last, derives, holds⟩ | ⟨_, _, _, _, _, _, refuses⟩
  · cases h.symm.trans derives
    exact holds
  · cases h.symm.trans refuses

/-- The refusal is that of the first name that cannot be derived. -/
theorem refused_of_deriveIdSets {error : EngineError}
    (h : deriveIdSets slots outputs = .error error) :
    ∃ bundle, bundle ++ idSetEnding ∈ slots ∧ ¬ Derivable slots outputs bundle ∧
      (∀ other, other ++ idSetEnding ∈ slots →
        Utf8.encode (other ++ idSetEnding) < Utf8.encode (bundle ++ idSetEnding) →
          Derivable slots outputs other) ∧
      error = refusal slots outputs bundle := by
  rcases (derived_start slots outputs).run (List.nil_append _).symm with
    ⟨last, derives, _⟩ | ⟨before, bundle, after, keys, earlier, refused, refuses⟩
  · cases h.symm.trans derives
  · refine ⟨bundle, ?_, refused, fun other declared first => ?_, ?_⟩
    · exact Std.ExtTreeMap.mem_keys.mp (keys ▸ List.mem_append_right _ List.mem_cons_self)
    · exact earlier other (mem_of_lt keys declared (Utf8.compare_eq_lt.mpr first))
    · exact Except.error.inj (h.symm.trans refuses)

theorem deriveIdSets_eq_ok :
    (∃ derived, deriveIdSets slots outputs = .ok derived) ↔
      ∀ bundle, bundle ++ idSetEnding ∈ slots → Derivable slots outputs bundle := by
  constructor
  · rintro ⟨derived, derives⟩ bundle declared
    exact (derived_of_deriveIdSets derives).derivable (Std.ExtTreeMap.mem_keys.mpr declared)
  · intro derivable
    cases derives : deriveIdSets slots outputs with
    | ok derived => exact ⟨derived, rfl⟩
    | error error =>
        obtain ⟨bundle, declared, refused, _⟩ := refused_of_deriveIdSets derives
        exact absurd (derivable bundle declared) refused

theorem mem_slots_of_mem_derived {derived : Outputs}
    (h : deriveIdSets slots outputs = .ok derived) (declared : ∀ name ∈ outputs, name ∈ slots) :
    ∀ name ∈ derived, name ∈ slots := by
  intro name produced
  by_cases listed : name ∈ slots
  · exact listed
  · refine declared name ?_
    have kept : derived[name]? = outputs[name]? :=
      (derived_of_deriveIdSets h).others fun handled =>
        listed (Std.ExtTreeMap.mem_keys.mp handled.1)
    rw [Maps.mem_iff_exists, ← kept]
    exact Maps.mem_iff_exists.mp produced

end Engine
end GraphEngine
