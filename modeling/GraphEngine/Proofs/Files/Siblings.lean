import GraphEngine.Proofs.Files.Clearance
import GraphEngine.Proofs.Independence

/-!
Work in two directories that stand beside each other.

A step in one of them answers the same and leaves the same whether or not a step in the other has
come first, also where the way to both has yet to be made and where one of the steps fails.
-/
namespace GraphEngine.Files

variable {files changed : Files} {around place path : Path} {name other : String} {step : Step}
  {change : Files → Files}

section Beside

variable (beside : name ≠ other)
include beside

theorem not_prefix_of_beside (around rest : Path) :
    ¬ around ++ [name] <+: around ++ [other] ++ rest := by
  rw [List.append_assoc, List.prefix_append_right_inj, List.singleton_append,
    List.cons_prefix_cons]
  exact fun within => beside within.1

theorem ne_of_onTheWay (onTheWay : path <+: around ++ [name]) (own : String) :
    path ≠ around ++ [other] ++ [own] := by
  rintro rfl
  exact not_prefix_of_beside beside.symm around []
    (by simpa using (List.prefix_append _ _).trans onTheWay)

theorem ne_of_below (below : around ++ [name] <+: path) (own : String) :
    path ≠ around ++ [other] ++ [own] := by
  rintro rfl
  exact not_prefix_of_beside beside around [own] below

/-- It is enough that a change is confined to the other directory and does not mix with what is
put or dropped in this one. -/
theorem spares_of_confined
    (elsewhere : ∀ files place, (∀ own, place ≠ around ++ [other] ++ [own]) →
      (change files).node? place = files.node? place)
    (put : ∀ files inner node, change (files.put (around ++ [name] ++ [inner]) node)
      = (change files).put (around ++ [name] ++ [inner]) node)
    (drop : ∀ files inner, change (files.drop (around ++ [name] ++ [inner]))
      = (change files).drop (around ++ [name] ++ [inner])) :
    Spares (around ++ [name]) change where
  isFile files place onTheWay := by
    obtain ⟨count, _, rfl⟩ := List.mem_map.mp onTheWay
    rw [Files.isFile, Files.isFile,
      elsewhere files _ (ne_of_onTheWay beside (List.take_prefix _ _))]
  node? files _ below := elsewhere files _ (ne_of_below beside below)
  put := put
  drop := drop

theorem spares_put (own : String) (node : Node) :
    Spares (around ++ [name]) fun files => files.put (around ++ [other] ++ [own]) node :=
  spares_of_confined beside (fun _ _ elsewhere => node?_put_of_ne (elsewhere own))
    (fun _ inner _ => put_put_of_ne (ne_of_below beside (List.prefix_append _ [inner]) own))
    fun _ inner =>
      (drop_put_of_ne (ne_of_below beside (List.prefix_append _ [inner]) own).symm).symm

theorem spares_drop (own : String) :
    Spares (around ++ [name]) fun files => files.drop (around ++ [other] ++ [own]) :=
  spares_of_confined beside (fun _ _ elsewhere => node?_drop_of_ne (elsewhere own))
    (fun _ inner _ => drop_put_of_ne (ne_of_below beside (List.prefix_append _ [inner]) own))
    (fun _ _ => drop_drop_comm)

theorem spares_effect (inside : step.Inside (around ++ [other])) :
    Spares (around ++ [name]) step.effect := by
  refine spares_of_confined beside (fun files place elsewhere => node?_effect ?_)
    (fun files inner node => ?_) (fun files inner => ?_)
  · cases inside with
    | clear own | createFile own | append own bytes => exact elsewhere own
    | rename source target => exact not_or.mpr ⟨elsewhere source, elsewhere target⟩
  · exact Step.effect_of_apply (·.put _ node)
      ((spares_put beside.symm inner node).apply inside files)
  · exact Step.effect_of_apply (·.drop _) ((spares_drop beside.symm inner).apply inside files)

theorem makeDirectories_put (own : String) (node : Node) :
    (files.put (around ++ [other] ++ [own]) node).makeDirectories (around ++ [name])
      = (files.makeDirectories (around ++ [name])).map
          fun files => files.put (around ++ [other] ++ [own]) node :=
  makeDirectories_of_node? (·.put _ node)
    (fun _ _ onTheWay => node?_put_of_ne (ne_of_onTheWay beside onTheWay own))
    fun _ _ onTheWay => put_put_of_ne (ne_of_onTheWay beside onTheWay own)

theorem makeDirectories_drop (own : String) :
    (files.drop (around ++ [other] ++ [own])).makeDirectories (around ++ [name])
      = (files.makeDirectories (around ++ [name])).map
          fun files => files.drop (around ++ [other] ++ [own]) :=
  makeDirectories_of_node? (·.drop _)
    (fun _ _ onTheWay => node?_drop_of_ne (ne_of_onTheWay beside onTheWay own))
    fun _ _ onTheWay => drop_put_of_ne (ne_of_onTheWay beside onTheWay own)

theorem spares_makeDirectories :
    Spares (around ++ [name]) (Step.makeDirectories (around ++ [other])).effect where
  isFile files place _ := by
    cases made : Step.apply files (.makeDirectories (around ++ [other])) with
    | error fault => rw [Step.effect_of_error made]
    | ok changed => rw [Step.effect_of_ok made, isFile_makeDirectories_eq made]
  node? files place below := node?_effect fun onTheWay =>
    not_prefix_of_beside beside around [] (by simpa using below.trans onTheWay)
  put _ inner node :=
    Step.effect_of_apply (·.put _ node) (makeDirectories_put beside.symm inner node)
  drop _ inner :=
    Step.effect_of_apply (·.drop _) (makeDirectories_drop beside.symm inner)

theorem outcome_makeDirectories (edited : Edited (around ++ [other]) files changed) :
    (changed.makeDirectories (around ++ [name])).map (fun _ => ())
      = (files.makeDirectories (around ++ [name])).map fun _ => () := by
  induction edited with
  | unchanged => rfl
  | @put changed own node _ ih =>
      rw [← ih, makeDirectories_put beside]
      cases changed.makeDirectories (around ++ [name]) <;> rfl
  | @drop changed own _ ih =>
      rw [← ih, makeDirectories_drop beside]
      cases changed.makeDirectories (around ++ [name]) <;> rfl

theorem ensureDirectory_put (node : Node) :
    (files.put (around ++ [other]) node).ensureDirectory (around ++ [name])
      = (files.ensureDirectory (around ++ [name])).map
          fun files => files.put (around ++ [other]) node := by
  have off : ∀ {place : Path}, place <+: around ++ [name] → place ≠ around ++ [other] := by
    rintro place onTheWay rfl
    exact not_prefix_of_beside beside.symm around [] (by simpa using onTheWay)
  exact ensureDirectory_of_node? (·.put _ node) (fun _ onTheWay => node?_put_of_ne (off onTheWay))
    (put_put_of_ne (off (List.prefix_refl _)))

/-- The other directory, once made, has brought about one change wherever it is made. -/
theorem ensureDirectory_after {right : Files}
    (made : files.ensureDirectory (around ++ [other]) = .ok right) :
    ∃ change : Files → Files,
      right.ensureDirectory (around ++ [name])
        = (files.ensureDirectory (around ++ [name])).map change ∧
      ∀ left, files.ensureDirectory (around ++ [name]) = .ok left →
        left.ensureDirectory (around ++ [other]) = .ok (change left) := by
  rcases eq_or_put_of_ensureDirectory made with rfl | rfl
  · refine ⟨id, ?_, fun left madeLeft => ?_⟩
    · cases right.ensureDirectory (around ++ [name]) <;> rfl
    · rcases eq_or_put_of_ensureDirectory madeLeft with rfl | rfl
      · exact made
      · rw [ensureDirectory_put beside.symm, made]
        rfl
  · refine ⟨fun files => files.put (around ++ [other]) (.directory true),
      ensureDirectory_put beside _, fun left madeLeft => ?_⟩
    rcases eq_or_put_of_ensureDirectory madeLeft with rfl | rfl
    · exact made
    · rw [ensureDirectory_put beside.symm, made]
      refine congrArg Except.ok (put_put_of_ne ?_)
      simpa using beside.symm

theorem apply_makeDirectories_effect :
    Step.apply (Step.effect (.makeDirectories (around ++ [other])) files)
        (.makeDirectories (around ++ [name]))
      = (Step.apply files (.makeDirectories (around ++ [name]))).map
          (Step.effect (.makeDirectories (around ++ [other]))) := by
  rcases makeDirectories_along files around with ⟨fault, fails⟩ | ⟨way, stand, goesOn⟩
  · have first : Step.apply files (.makeDirectories (around ++ [name])) = _ := fails name
    have second : Step.apply files (.makeDirectories (around ++ [other])) = _ := fails other
    rw [Step.effect_of_error second, first]
    rfl
  · have first : Step.apply files (.makeDirectories (around ++ [name])) = _ := goesOn name
    have second : Step.apply files (.makeDirectories (around ++ [other])) = _ := goesOn other
    -- The way stands in whatever is left when the directory at its end has been made.
    have again : ∀ {made : Files} {own : String},
        way.ensureDirectory (around ++ [own]) = .ok made →
          ∀ name, Step.apply made (.makeDirectories (around ++ [name]))
            = made.ensureDirectory (around ++ [name]) :=
      fun ensured name => makeDirectories_of_stand fun place onTheWay =>
        keeps_ensureDirectory ensured (stand place onTheWay)
    rw [first]
    cases madeOther : way.ensureDirectory (around ++ [other]) with
    | ok right =>
        obtain ⟨change, after, both⟩ := ensureDirectory_after beside madeOther
        rw [Step.effect_of_ok (second.trans madeOther), again madeOther, after]
        cases made : way.ensureDirectory (around ++ [name]) with
        | error fault => rfl
        | ok left =>
            have last := (again made other).trans (both left made)
            exact congrArg Except.ok (Step.effect_of_ok last).symm
    | error fault =>
        rw [Step.effect_of_error (second.trans madeOther), first]
        cases made : way.ensureDirectory (around ++ [name]) with
        | error fault => rfl
        | ok left =>
            obtain ⟨change, after, _⟩ := ensureDirectory_after beside.symm made
            rw [madeOther] at after
            have last := (again made other).trans after
            exact congrArg Except.ok (Step.effect_of_error last).symm

end Beside

theorem answer_step (files : Files) (step : Step) :
    (files.perform [step]).1 = (step.apply files).map fun _ => () := by
  rw [perform]
  cases step.apply files <;> rfl

theorem outcome_of_apply (same : step.apply (change files) = (step.apply files).map change) :
    (step.apply (change files)).map (fun _ => ()) = (step.apply files).map fun _ => () := by
  rw [same]
  cases step.apply files <;> rfl

theorem independent_of_apply {left right : Step}
    (apply : ∀ files, left.apply (right.effect files) = (left.apply files).map right.effect)
    (outcome : ∀ files, (right.apply (left.effect files)).map (fun _ => ())
      = (right.apply files).map fun _ => ()) :
    Independent (perform · [left]) (perform · [right]) where
  answer files := by
    rw [answer_step, answer_step]
    exact outcome_of_apply (apply files)
  answer_other files := by
    rw [answer_step, answer_step]
    exact outcome files
  leave files := Step.effect_of_apply right.effect (apply files)

theorem independent_step (beside : name ≠ other) {left right : Step}
    (first : left.Serves (around ++ [name])) (second : right.Serves (around ++ [other])) :
    Independent (perform · [left]) (perform · [right]) := by
  cases first with
  | makeDirectories =>
      cases second with
      | makeDirectories =>
          exact independent_of_apply (fun _ => apply_makeDirectories_effect beside)
            fun _ => outcome_of_apply (apply_makeDirectories_effect beside.symm)
      | inside inner =>
          refine Independent.symm (independent_of_apply
            ((spares_makeDirectories beside.symm).apply inner) fun _ => ?_)
          exact outcome_makeDirectories beside (edited_effect inner)
  | inside inner =>
      cases second with
      | makeDirectories =>
          refine independent_of_apply ((spares_makeDirectories beside).apply inner) fun _ => ?_
          exact outcome_makeDirectories beside.symm (edited_effect inner)
      | inside innerOther =>
          exact independent_of_apply ((spares_effect beside innerOther).apply inner)
            fun files => outcome_of_apply ((spares_effect beside.symm inner).apply innerOther files)

/-- Performing goes on only after a step that succeeds. -/
def goOn (rest : List Step) : Except SystemFault Unit → Files → Except SystemFault Unit × Files
  | .ok _, files => files.perform rest
  | .error fault, files => (.error fault, files)

theorem perform_cons_eq_goOn (files : Files) (step : Step) (rest : List Step) :
    files.perform (step :: rest)
      = goOn rest (files.perform [step]).1 (files.perform [step]).2 := by
  simp only [perform]
  cases step.apply files <;> rfl

theorem independent_perform_of_step {α : Type} {action : Files → α × Files} {steps : List Step}
    (each : ∀ step ∈ steps, Independent (perform · [step]) action) :
    Independent (perform · steps) action := by
  induction steps with
  | nil => exact Independent.idle (Except.ok ())
  | cons step rest ih =>
      simp only [perform_cons_eq_goOn _ step rest]
      refine Independent.bind (each step List.mem_cons_self) fun answer => ?_
      cases answer with
      | ok _ => exact ih fun other inRest => each other (List.mem_cons_of_mem _ inRest)
      | error fault => exact .idle _

theorem independent_perform (beside : name ≠ other) {left right : List Step}
    (first : ∀ step ∈ left, step.Serves (around ++ [name]))
    (second : ∀ step ∈ right, step.Serves (around ++ [other])) :
    Independent (perform · left) (perform · right) :=
  independent_perform_of_step fun _ inLeft => .symm <|
    independent_perform_of_step fun _ inRight =>
      (independent_step beside (first _ inLeft) (second _ inRight)).symm

end GraphEngine.Files
