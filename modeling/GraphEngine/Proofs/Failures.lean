import GraphEngine.Proofs.Maps
import GraphEngine.Proofs.Result
import GraphEngine.Proofs.Text.Order

/-!
The first of several checks that fails.

Checks are made one after another, and nothing is known of those behind the first that fails. Over
a map they are made in the order of the names, which is that of their bytes.
-/
namespace GraphEngine

namespace Result

variable {ε α β : Type} {check : α → Except ε β} {fault : ε} {items : List α}

/-- One of the items fails like this, and all before it pass. -/
inductive FirstFailure (check : α → Except ε β) (fault : ε) : List α → Prop where
  | here {item : α} {rest : List α} (fails : check item = .error fault) :
      FirstFailure check fault (item :: rest)
  | later {item : α} {rest : List α} {result : β} (passes : check item = .ok result)
      (others : FirstFailure check fault rest) : FirstFailure check fault (item :: rest)

theorem firstFailure_cons {item : α} {rest : List α} :
    FirstFailure check fault (item :: rest) ↔
      check item = .error fault ∨
        ∃ result, check item = .ok result ∧ FirstFailure check fault rest := by
  constructor
  · intro h
    cases h with
    | here fails => exact .inl fails
    | later passes others => exact .inr ⟨_, passes, others⟩
  · rintro (fails | ⟨_, passes, others⟩)
    · exact .here fails
    · exact .later passes others

theorem forM_eq_error {check : α → Except ε Unit} :
    items.forM check = .error fault ↔ FirstFailure check fault items := by
  rw [List.forM_eq_forM]
  induction items with
  | nil => exact ⟨fun h => (by cases h), fun h => (by cases h)⟩
  | cons item rest ih => rw [List.forM_cons, bind_eq_error, ih, firstFailure_cons]

theorem mapM_eq_error : items.mapM check = .error fault ↔ FirstFailure check fault items := by
  induction items with
  | nil => exact ⟨fun h => (by cases h), fun h => (by cases h)⟩
  | cons item rest ih =>
      rw [List.mapM_cons, bind_eq_error, firstFailure_cons, ← ih]
      simp only [bind_eq_error, pure, Except.pure, reduceCtorEq, and_false, exists_false, or_false]

theorem firstFailure_map {γ : Type} {f : γ → α} {items : List γ} :
    FirstFailure check fault (items.map f) ↔ FirstFailure (check ∘ f) fault items := by
  induction items with
  | nil => exact ⟨fun h => (by cases h), fun h => (by cases h)⟩
  | cons item rest ih => rw [List.map_cons, firstFailure_cons, firstFailure_cons, ih]; rfl

theorem firstFailure_iff_exists : FirstFailure check fault items ↔
    ∃ before item after, items = before ++ item :: after ∧
      (∀ earlier ∈ before, ∃ result, check earlier = .ok result) ∧ check item = .error fault := by
  constructor
  · intro h
    induction h with
    | here fails => exact ⟨[], _, _, rfl, by simp, fails⟩
    | later passes _ ih =>
        obtain ⟨before, item, after, rfl, pass, fails⟩ := ih
        exact ⟨_ :: before, item, after, rfl, List.forall_mem_cons.mpr ⟨⟨_, passes⟩, pass⟩, fails⟩
  · rintro ⟨before, item, after, rfl, pass, fails⟩
    induction before with
    | nil => exact .here fails
    | cons first rest ih =>
        rw [List.forall_mem_cons] at pass
        obtain ⟨⟨_, passes⟩, others⟩ := pass
        exact .later passes (ih others)

end Result

namespace Maps

open Std

variable {ε α β : Type} {P : String → α → Prop} {map : ExtTreeMap String α}

/-- The entry is not as it should be, and all under earlier names are. -/
structure FirstViolation (P : String → α → Prop) (map : ExtTreeMap String α) (name : String)
    (value : α) : Prop where
  bound : map[name]? = some value
  violates : ¬ P name value
  before : ∀ {earlier : String} {other : α}, map[earlier]? = some other →
    Utf8.encode earlier < Utf8.encode name → P earlier other

/-- Before an entry stand those with earlier names. -/
theorem mem_before_iff {before after : List (String × α)} {name : String} {value : α}
    (split : map.toList = before ++ (name, value) :: after) {earlier : String} {other : α} :
    (earlier, other) ∈ before ↔
      map[earlier]? = some other ∧ Utf8.encode earlier < Utf8.encode name := by
  have ordered := ExtTreeMap.ordered_keys_toList (t := map)
  rw [split, List.pairwise_append, List.pairwise_cons] at ordered
  obtain ⟨_, ⟨behind, _⟩, across⟩ := ordered
  rw [← ExtTreeMap.mem_toList_iff_getElem?_eq_some, split, List.mem_append, List.mem_cons]
  constructor
  · exact fun listed =>
      ⟨.inl listed, Utf8.compare_eq_lt.mp (across _ listed _ List.mem_cons_self)⟩
  · rintro ⟨listed | same | listed, order⟩
    · exact listed
    · cases same
      exact absurd order (List.lt_irrefl _)
    · exact absurd order (List.lt_asymm (Utf8.compare_eq_lt.mp (behind _ listed)))

/-- Checked in their order, the entries of a map fail at the first violation. -/
theorem firstFailure_iff_firstViolation {check : String × α → Except ε β}
    {wording : String → α → ε} {fault : ε}
    (decided : ∀ name value, (P name value ∧ ∃ result, check (name, value) = .ok result) ∨
      (¬ P name value ∧ check (name, value) = .error (wording name value))) :
    Result.FirstFailure check fault map.toList ↔
      ∃ name value, fault = wording name value ∧ FirstViolation P map name value := by
  have passes {name : String} {value : α} :
      (∃ result, check (name, value) = .ok result) ↔ P name value := by
    rcases decided name value with ⟨holds, passes⟩ | ⟨violates, fails⟩
    · exact iff_of_true passes holds
    · refine iff_of_false ?_ violates
      rintro ⟨_, passes⟩
      cases fails.symm.trans passes
  have fails {name : String} {value : α} (violates : ¬ P name value) :
      check (name, value) = .error (wording name value) :=
    ((decided name value).resolve_left fun passes => violates passes.1).2
  rw [Result.firstFailure_iff_exists]
  constructor
  · rintro ⟨before, ⟨name, value⟩, after, split, pass, failed⟩
    have violates : ¬ P name value := by
      intro holds
      obtain ⟨_, passed⟩ := passes.mpr holds
      cases failed.symm.trans passed
    refine ⟨name, value, Except.error.inj (failed.symm.trans (fails violates)), ?_, violates,
      fun bound order => passes.mp (pass _ ((mem_before_iff split).mpr ⟨bound, order⟩))⟩
    exact ExtTreeMap.mem_toList_iff_getElem?_eq_some.mp (split ▸ List.mem_append_cons_self)
  · rintro ⟨name, value, rfl, first⟩
    obtain ⟨before, after, split⟩ := List.append_of_mem
      (ExtTreeMap.mem_toList_iff_getElem?_eq_some.mpr first.bound)
    refine ⟨before, (name, value), after, split, fun earlier listed => ?_, fails first.violates⟩
    obtain ⟨bound, order⟩ := (mem_before_iff split).mp listed
    exact passes.mpr (first.before bound order)

end Maps
end GraphEngine
