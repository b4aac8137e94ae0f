/-!
Computations in stages, any of which may fail.
-/
namespace GraphEngine.Result

variable {ε α β : Type}

theorem bind_eq_ok {first : Except ε α} {next : α → Except ε β} {result : β} :
    (first >>= next) = .ok result ↔ ∃ value, first = .ok value ∧ next value = .ok result := by
  cases first with
  | error fault => simp [bind, Except.bind]
  | ok value => simp [bind, Except.bind]

theorem bind_eq_error {first : Except ε α} {next : α → Except ε β} {fault : ε} :
    (first >>= next) = .error fault ↔
      first = .error fault ∨ ∃ value, first = .ok value ∧ next value = .error fault := by
  cases first with
  | error fault => simp [bind, Except.bind]
  | ok value => simp [bind, Except.bind]

/-- A row of checks passes when each of them does. -/
theorem forM_eq_ok {check : α → Except ε Unit} {items : List α} :
    items.forM check = .ok () ↔ ∀ item ∈ items, check item = .ok () := by
  rw [List.forM_eq_forM]
  induction items with
  | nil => simp [pure, Except.pure]
  | cons item rest ih =>
      rw [List.forM_cons, bind_eq_ok, List.forall_mem_cons, ← ih]
      exact ⟨fun ⟨_, first, others⟩ => ⟨first, others⟩, fun ⟨first, others⟩ => ⟨_, first, others⟩⟩

theorem exists_of_forM {check : α → Except ε Unit} {items : List α} {fault : ε}
    (h : items.forM check = .error fault) : ∃ item ∈ items, check item = .error fault := by
  rw [List.forM_eq_forM] at h
  induction items with
  | nil => cases h
  | cons item rest ih =>
      rw [List.forM_cons, bind_eq_error] at h
      rcases h with first | ⟨_, _, others⟩
      · exact ⟨item, List.mem_cons_self, first⟩
      · obtain ⟨other, inRest, fails⟩ := ih others
        exact ⟨other, List.mem_cons_of_mem _ inRest, fails⟩

theorem mapM_eq_ok {f : α → Except ε β} {items : List α} {results : List β} :
    items.mapM f = .ok results ↔ items.map f = results.map .ok := by
  induction items generalizing results with
  | nil =>
      rw [List.mapM_nil]
      cases results <;> simp [pure, Except.pure]
  | cons item rest ih =>
      rw [List.mapM_cons, bind_eq_ok]
      constructor
      · rintro ⟨value, first, others⟩
        obtain ⟨values, mapped, returned⟩ := bind_eq_ok.mp others
        cases returned
        rw [List.map_cons, List.map_cons, first, ih.mp mapped]
      · intro mapped
        cases results with
        | nil => simp at mapped
        | cons value values =>
            rw [List.map_cons, List.map_cons, List.cons.injEq] at mapped
            exact ⟨value, mapped.1, bind_eq_ok.mpr ⟨values, ih.mpr mapped.2, rfl⟩⟩

theorem mem_of_mapM {f : α → Except ε β} {items : List α} {results : List β}
    (h : items.mapM f = .ok results) {result : β} :
    result ∈ results ↔ ∃ item ∈ items, f item = .ok result := by
  rw [mapM_eq_ok] at h
  rw [← List.mem_map, h, List.mem_map]
  simp

theorem eq_ok_of_mapM {f : α → Except ε β} {items : List α} {results : List β}
    (h : items.mapM f = .ok results) {item : α} (listed : item ∈ items) :
    ∃ result, f item = .ok result := by
  have mapped : f item ∈ items.map f := List.mem_map_of_mem listed
  rw [mapM_eq_ok.mp h] at mapped
  obtain ⟨result, _, same⟩ := List.mem_map.mp mapped
  exact ⟨result, same.symm⟩

theorem exists_of_mapM {f : α → Except ε β} {items : List α} {fault : ε}
    (h : items.mapM f = .error fault) : ∃ item ∈ items, f item = .error fault := by
  induction items with
  | nil => cases h
  | cons item rest ih =>
      rw [List.mapM_cons, bind_eq_error] at h
      rcases h with first | ⟨_, _, others⟩
      · exact ⟨item, List.mem_cons_self, first⟩
      · rcases bind_eq_error.mp others with later | ⟨_, _, returned⟩
        · obtain ⟨other, inRest, fails⟩ := ih later
          exact ⟨other, List.mem_cons_of_mem _ inRest, fails⟩
        · cases returned

theorem map_of_mapM {γ : Type} {f : α → Except ε β} {before : α → γ} {after : β → γ}
    (kept : ∀ {item result}, f item = .ok result → after result = before item)
    {items : List α} {results : List β} (h : items.mapM f = .ok results) :
    results.map after = items.map before := by
  rw [mapM_eq_ok] at h
  induction items generalizing results with
  | nil =>
      cases results with
      | nil => rfl
      | cons value values => simp at h
  | cons item rest ih =>
      cases results with
      | nil => simp at h
      | cons value values =>
          rw [List.map_cons, List.map_cons, List.cons.injEq] at h
          rw [List.map_cons, List.map_cons, kept h.1, ih h.2]

/-- What each stage preserves holds at the end of all. -/
theorem foldlM_induction {f : β → α → Except ε β} {P : β → Prop} {items : List α}
    (preserved : ∀ {state item next}, item ∈ items → P state → f state item = .ok next → P next)
    {start last : β} (begins : P start) (h : items.foldlM f start = .ok last) : P last := by
  induction items generalizing start with
  | nil =>
      cases h
      exact begins
  | cons item rest ih =>
      rw [List.foldlM_cons, bind_eq_ok] at h
      obtain ⟨next, first, others⟩ := h
      exact ih (fun inRest => preserved (List.mem_cons_of_mem _ inRest))
        (preserved List.mem_cons_self begins first) others

end GraphEngine.Result
