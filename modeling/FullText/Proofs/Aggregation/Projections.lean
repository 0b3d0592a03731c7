import FullText.Proofs.Aggregation.Command
import FullText.Proofs.Table

namespace FullText

namespace Aggregation

def Step.projection : Step → Option (String × String)
  | .apply expression asName => some (asName, expression)
  | _ => none

def projected (steps : List Step) : List (String × String) := steps.filterMap Step.projection

def aliases (steps : List Step) : List String := (projected steps).map Prod.fst

variable {a b : Aggregation} {s : Step} {steps : List Step} {asName expression : String}

theorem Step.projection_eq_some_iff :
    s.projection = some (asName, expression) ↔ s = .apply expression asName := by
  cases s <;> simp [projection, and_comm]

theorem mem_aliases_iff : asName ∈ aliases steps ↔ ∃ expression, .apply expression asName ∈ steps := by
  simp only [aliases, projected, List.mem_map, List.mem_filterMap]
  constructor
  · rintro ⟨⟨_, expression⟩, ⟨s, hs, hp⟩, rfl⟩
    exact ⟨expression, Step.projection_eq_some_iff.mp hp ▸ hs⟩
  · rintro ⟨expression, hs⟩
    exact ⟨(asName, expression), ⟨_, hs, rfl⟩, rfl⟩

theorem exists_apply_of_projected {before after : List (String × String)}
    (h : projected steps = before ++ (asName, expression) :: after) :
    ∃ earlier later, steps = earlier ++ .apply expression asName :: later ∧
      projected later = after := by
  obtain ⟨earlier, rest, rfl, -, hrest⟩ := List.filterMap_eq_append_iff.mp h
  obtain ⟨between, s, later, rfl, -, hs, hlater⟩ := List.filterMap_eq_cons_iff.mp hrest
  obtain rfl := Step.projection_eq_some_iff.mp hs
  exact ⟨earlier ++ between, later, (List.append_assoc _ _ _).symm, hlater⟩

theorem projections_of_step (h : a.step s = .ok b) :
    b.projections = s.projection.elim a.projections fun p => a.projections.insert p.1 p.2 := by
  cases s with
  | groupBy | reduce | limit =>
      rw [step] at h
      split at h <;> cases h <;> rfl
  | _ =>
      cases h
      rfl

theorem projections_stepOrKeep (a : Aggregation) (s : Step) :
    (a.stepOrKeep s).projections =
      s.projection.elim a.projections fun p => a.projections.insert p.1 p.2 := by
  cases h : a.step s with
  | ok b =>
      rw [stepOrKeep_of_ok h]
      exact projections_of_step h
  | error e =>
      rw [stepOrKeep_of_error h]
      rcases (step_eq_error_iff a s e).mp h with ⟨_, rfl, -⟩ | ⟨_, rfl, -, -⟩
      · rfl
      · rfl

theorem projections_run (a : Aggregation) (steps : List Step) :
    (a.run steps).projections =
      (projected steps).foldl (fun t p => t.insert p.1 p.2) a.projections := by
  induction steps generalizing a with
  | nil => rfl
  | cons s steps ih =>
      rw [run, List.foldl_cons, ← run, ih, projections_stepOrKeep, projected, projected,
        List.filterMap_cons]
      cases s.projection <;> rfl

theorem projections_command (a : Aggregation) : a.command.projections = a.projections.entries := by
  rw [command, settled]
  split <;> rfl

theorem projections_command_run (query : String) (steps : List Step) :
    (run { query } steps).command.projections = (Table.ofList (projected steps)).entries := by
  rw [projections_command, projections_run]
  rfl

/-- The tokens of a request that was built by a run of steps say one projection for each alias that
the run gave, in the order of the first steps with the aliases, and each has the expression of the
last step with its alias. Only the steps that project have an effect on them. -/
theorem projections_by_alias (query : String) (steps : List Step) :
    ∃ c, AggregateCommand.read (run { query } steps).tokens = some c ∧
      c.tokens = (run { query } steps).tokens ∧
      (c.projections.map Prod.fst).Nodup ∧
      (∀ asName, asName ∈ c.projections.map Prod.fst ↔
        ∃ expression, .apply expression asName ∈ steps) ∧
      (c.projections.map Prod.fst).Pairwise (fun name other =>
        (aliases steps).idxOf name < (aliases steps).idxOf other) ∧
      (∀ p ∈ c.projections, ∃ earlier later, steps = earlier ++ .apply p.2 p.1 :: later ∧
        ∀ expression, .apply expression p.1 ∉ later) ∧
      ∀ other others, projected others = projected steps →
        ∃ d, AggregateCommand.read (run { query := other } others).tokens = some d ∧
          d.projections = c.projections := by
  have hnodup := Table.nodup_names_ofList (projected steps)
  refine ⟨_, read_tokens _, tokens_command _, ?_⟩
  rw [projections_command_run]
  refine ⟨hnodup, fun asName => ?_, Table.pairwise_idxOf_names_ofList _, ?_, ?_⟩
  · rw [← mem_aliases_iff]
    exact Table.mem_names_ofList (projected steps) asName
  · rintro ⟨asName, expression⟩ hp
    obtain ⟨before, after, hprojected, hlast⟩ :=
      Table.get?_ofList_eq_some_iff_append.mp ((Table.mem_entries_iff hnodup _ _).mp hp)
    obtain ⟨earlier, later, hsteps, rfl⟩ := exists_apply_of_projected hprojected
    exact ⟨earlier, later, hsteps, fun expression h => hlast (mem_aliases_iff.mpr ⟨expression, h⟩)⟩
  · intro other others h
    exact ⟨_, read_tokens _, by rw [projections_command_run, h]⟩

/-- Projections under two aliases, the first of them twice, with refused and other steps between. -/
def reapplied : List Step :=
  [.reduce { kind := .count }, .apply "@x" "a", .groupBy [] [], .apply "@y" "b", .filter "@y > 1",
    .groupBy ["@g"] [], .apply "@z" "a", .limit ⟨0, 5⟩]

theorem projections_by_alias_reapplied :
    let alone : List Step := [.apply "@x" "a", .apply "@y" "b", .apply "@z" "a"]
    projected alone = projected reapplied ∧
    ∃ c, AggregateCommand.read (run {} reapplied).tokens = some c ∧
      c.projections = [("a", "@z"), ("b", "@y")] ∧
      ∃ d, AggregateCommand.read (run { query := "APPLY" } alone).tokens = some d ∧
        d.projections = [("a", "@z"), ("b", "@y")] := by
  intro alone
  have halone : projected alone = projected reapplied := rfl
  obtain ⟨c, hread, -, -, -, -, -, hothers⟩ := projections_by_alias "*" reapplied
  obtain rfl : _ = c := Option.some.inj ((read_tokens _).symm.trans hread)
  obtain ⟨d, hd, hprojections⟩ := hothers "APPLY" alone halone
  exact ⟨halone, _, hread, rfl, d, hd, hprojections⟩

end Aggregation

end FullText
