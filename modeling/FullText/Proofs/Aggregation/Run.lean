import FullText.Aggregation.Request
import FullText.Proofs.Last
import Mathlib.Data.List.Basic

namespace FullText

namespace Aggregation

def run (a : Aggregation) (steps : List Step) : Aggregation := steps.foldl stepOrKeep a

/-- The fields and reducers that the step opens a group with. Without fields it opens none. -/
def Step.opening : Step → Option (List String × List Reducer)
  | .groupBy fields reducers => if fields.isEmpty then none else some (fields, reducers)
  | _ => none

def Step.reducer : Step → Option Reducer
  | .reduce r => some r
  | _ => none

def Step.window : Step → Option Limit
  | .limit l => some l
  | _ => none

def reducersIn (steps : List Step) : List Reducer := steps.filterMap Step.reducer

def lastLimit (steps : List Step) : Option Limit := last Step.window steps

/-- The steps before the first that opens a group. -/
def lead (steps : List Step) : List Step := steps.takeWhile fun s => s.opening.isNone

/-- What a group is opened with, and the steps from there to the next group. -/
structure Span where
  fields : List String
  given : List Reducer
  steps : List Step

def spans : List Step → List Span
  | [] => []
  | s :: steps =>
    match s.opening with
    | none => spans steps
    | some (fields, given) => ⟨fields, given, lead steps⟩ :: spans steps

namespace Span

def group (p : Span) : Group where
  fields := p.fields
  reducers := p.given ++ reducersIn p.steps
  limit := (lastLimit p.steps).getD {}

def all (p : Span) : List Step := .groupBy p.fields p.given :: p.steps

end Span

variable {s : Step} {steps : List Step} {fields : List String} {given : List Reducer}

theorem Step.eq_groupBy (h : s.opening = some (fields, given)) :
    fields ≠ [] ∧ s = .groupBy fields given := by
  cases s with
  | groupBy fields' given' =>
      rw [Step.opening] at h
      split at h
      next => nomatch h
      next hfields =>
        cases h
        exact ⟨by simpa using hfields, rfl⟩
  | _ => nomatch h

theorem lead_cons_of_none (h : s.opening = none) : lead (s :: steps) = s :: lead steps := by
  rw [lead, List.takeWhile_cons, h]
  rfl

theorem lead_cons_of_some (h : s.opening = some (fields, given)) : lead (s :: steps) = [] := by
  rw [lead, List.takeWhile_cons, h]
  rfl

theorem spans_cons_of_none (h : s.opening = none) : spans (s :: steps) = spans steps := by
  rw [spans, h]

theorem spans_cons_of_some (h : s.opening = some (fields, given)) :
    spans (s :: steps) = ⟨fields, given, lead steps⟩ :: spans steps := by
  rw [spans, h]

theorem lead_append_spans (steps : List Step) :
    lead steps ++ (spans steps).flatMap Span.all = steps := by
  induction steps with
  | nil => rfl
  | cons s steps ih =>
      cases h : s.opening with
      | none => rw [lead_cons_of_none h, spans_cons_of_none h, List.cons_append, ih]
      | some given =>
          rw [lead_cons_of_some h, spans_cons_of_some h, List.flatMap_cons, List.nil_append]
          rw [Span.all, List.cons_append, ih, ← (Step.eq_groupBy h).2]

theorem spans_eq_nil_iff (steps : List Step) :
    spans steps = [] ↔ ∀ s ∈ steps, s.opening = none := by
  induction steps with
  | nil => simp [spans]
  | cons s steps ih =>
      cases h : s.opening with
      | none => rw [spans_cons_of_none h, ih, List.forall_mem_cons, h, eq_self, true_and]
      | some given => simp [spans_cons_of_some h, h]

theorem lastLimit_append (steps more : List Step) :
    lastLimit (steps ++ more) = (lastLimit more).or (lastLimit steps) :=
  last_append Step.window steps more

theorem lastLimit_singleton (s : Step) : lastLimit [s] = s.window := last_singleton Step.window s

def extend (steps : List Step) (g : Group) : Group where
  fields := g.fields
  reducers := g.reducers ++ reducersIn steps
  limit := (lastLimit steps).getD g.limit

theorem extend_nil (g : Group) : extend [] g = g := by
  simp [extend, reducersIn, lastLimit, last]

theorem extend_extend (steps more : List Step) (g : Group) :
    extend more (extend steps g) = extend (steps ++ more) g := by
  simp only [extend, reducersIn, List.filterMap_append, List.append_assoc, lastLimit_append]
  cases lastLimit more <;> rfl

theorem extend_limit (l : Limit) : extend [.limit l] = fun g => { g with limit := l } := by
  funext g
  exact congrArg (Group.mk g.fields · l) (List.append_nil g.reducers)

theorem updateLast_concat (f : Group → Group) (gs : List Group) (g : Group) :
    updateLast f (gs ++ [g]) = gs ++ [f g] := by
  induction gs with
  | nil => rfl
  | cons h gs ih =>
      rw [List.cons_append, List.cons_append, ← ih]
      cases gs <;> rfl

theorem updateLast_extend_nil (gs : List Group) : updateLast (extend []) gs = gs := by
  rcases List.eq_nil_or_concat' gs with rfl | ⟨gs, g, rfl⟩
  · rfl
  · rw [updateLast_concat, extend_nil]

theorem updateLast_extend_extend (steps more : List Step) (gs : List Group) :
    updateLast (extend more) (updateLast (extend steps) gs) =
      updateLast (extend (steps ++ more)) gs := by
  rcases List.eq_nil_or_concat' gs with rfl | ⟨gs, g, rfl⟩
  · rfl
  · rw [updateLast_concat, updateLast_concat, updateLast_concat, extend_extend]

theorem updateLast_eq_nil_iff (f : Group → Group) (gs : List Group) :
    updateLast f gs = [] ↔ gs = [] := by
  rcases List.eq_nil_or_concat' gs with rfl | ⟨gs, g, rfl⟩
  · rfl
  · simp [updateLast_concat]

theorem dropLast_isPrefix_updateLast (f : Group → Group) (gs : List Group) :
    gs.dropLast <+: updateLast f gs := by
  rcases List.eq_nil_or_concat' gs with rfl | ⟨gs, g, rfl⟩
  · exact List.nil_prefix
  · rw [updateLast_concat, List.dropLast_concat]
    exact List.prefix_append gs _

theorem step_eq_error_iff (a : Aggregation) (s : Step) (e : Error) :
    a.step s = .error e ↔
      (∃ reducers, s = .groupBy [] reducers ∧ e = InvalidArgument.noGroupFields) ∨
      (∃ r, s = .reduce r ∧ a.groups = [] ∧ e = InvalidArgument.reduceOutsideGroup) := by
  cases s with
  | groupBy fields reducers => cases fields <;> simp [step, @eq_comm _ e]
  | reduce r => by_cases h : a.groups = [] <;> simp [step, h, @eq_comm _ e]
  | limit l => by_cases h : a.groups = [] <;> simp [step, h]
  | _ => simp [step]

theorem stepOrKeep_of_ok {a b : Aggregation} (h : a.step s = .ok b) : a.stepOrKeep s = b := by
  rw [stepOrKeep, h]
  rfl

theorem stepOrKeep_of_error {a : Aggregation} {e : Error} (h : a.step s = .error e) :
    a.stepOrKeep s = a := by
  rw [stepOrKeep, h]
  rfl

theorem stepOrKeep_of_opening (a : Aggregation) (h : s.opening = some (fields, given)) :
    a.stepOrKeep s = { a with groups := a.groups ++ [⟨fields, given, {}⟩] } := by
  obtain ⟨hfields, rfl⟩ := Step.eq_groupBy h
  exact stepOrKeep_of_ok (if_neg (by simpa using hfields))

theorem stepOrKeep_of_none (a : Aggregation) (h : s.opening = none) :
    (a.stepOrKeep s).groups = updateLast (extend [s]) a.groups ∧
      (a.stepOrKeep s).limit = if a.groups = [] then s.window.getD a.limit else a.limit := by
  have hkeep : a.groups = updateLast (extend []) a.groups := (updateLast_extend_nil a.groups).symm
  have hlimit : a.limit = if a.groups = [] then a.limit else a.limit := (ite_self a.limit).symm
  cases s with
  | groupBy fields reducers =>
      have hfields : fields.isEmpty := by
        by_contra hfields
        rw [Step.opening, if_neg hfields] at h
        nomatch h
      have herror : a.step (.groupBy fields reducers) = .error _ := if_pos hfields
      rw [stepOrKeep_of_error herror]
      exact ⟨hkeep, hlimit⟩
  | reduce r =>
      by_cases hgroups : a.groups = []
      · have herror : a.step (.reduce r) = .error _ := if_pos (List.isEmpty_iff.mpr hgroups)
        rw [stepOrKeep_of_error herror, hgroups]
        exact ⟨rfl, rfl⟩
      · have hok : a.step (.reduce r) = .ok _ := if_neg (by simpa using hgroups)
        rw [stepOrKeep_of_ok hok]
        exact ⟨rfl, hlimit⟩
  | limit l =>
      by_cases hgroups : a.groups = []
      · have hok : a.step (.limit l) = .ok _ := if_pos (List.isEmpty_iff.mpr hgroups)
        rw [stepOrKeep_of_ok hok, hgroups]
        exact ⟨rfl, rfl⟩
      · have hok : a.step (.limit l) = .ok _ := if_neg (by simpa using hgroups)
        rw [stepOrKeep_of_ok hok, if_neg hgroups, extend_limit]
        exact ⟨rfl, rfl⟩
  | _ => exact ⟨hkeep, hlimit⟩

theorem groups_run (a : Aggregation) (steps : List Step) :
    (a.run steps).groups =
      updateLast (extend (lead steps)) a.groups ++ (spans steps).map Span.group := by
  induction steps generalizing a with
  | nil => exact ((List.append_nil _).trans (updateLast_extend_nil a.groups)).symm
  | cons s steps ih =>
      rw [run, List.foldl_cons, ← run, ih]
      cases h : s.opening with
      | none =>
          rw [(stepOrKeep_of_none a h).1, updateLast_extend_extend, lead_cons_of_none h,
            spans_cons_of_none h]
          rfl
      | some given =>
          rw [stepOrKeep_of_opening a h, lead_cons_of_some h, spans_cons_of_some h,
            updateLast_extend_nil, updateLast_concat, List.append_assoc]
          rfl

theorem limit_run (a : Aggregation) (steps : List Step) :
    (a.run steps).limit =
      if a.groups = [] then (lastLimit (lead steps)).getD a.limit else a.limit := by
  induction steps generalizing a with
  | nil => exact (ite_self a.limit).symm
  | cons s steps ih =>
      rw [run, List.foldl_cons, ← run, ih]
      cases h : s.opening with
      | none =>
          rw [(stepOrKeep_of_none a h).1, (stepOrKeep_of_none a h).2, lead_cons_of_none h]
          simp only [updateLast_eq_nil_iff]
          split
          · rw [← List.singleton_append, lastLimit_append, lastLimit_singleton]
            cases lastLimit (lead steps) <;> rfl
          · rfl
      | some given =>
          rw [stepOrKeep_of_opening a h, lead_cons_of_some h]
          simp [lastLimit, last]

theorem run_groups_eq_nil_iff (query : String) (steps : List Step) :
    (run { query } steps).groups = [] ↔ ∀ s ∈ steps, s.opening = none := by
  rw [groups_run, ← spans_eq_nil_iff]
  exact List.map_eq_nil_iff

/-- A run makes one group for each of its spans, out of the steps of that span alone, and the limit
of the request is the last one before any group. A step is refused if it groups by no fields, or if
it reduces and no group was opened before. Whatever steps follow, they leave the groups before the
last one as they are, and the limit of the request once there is a group. -/
theorem run_by_spans (query : String) (steps : List Step) :
    lead steps ++ (spans steps).flatMap Span.all = steps ∧
    (run { query } steps).groups = (spans steps).map Span.group ∧
    (run { query } steps).limit = (lastLimit (lead steps)).getD {} ∧
    (∀ s e, (run { query } steps).step s = .error e ↔
      (∃ reducers, s = .groupBy [] reducers ∧ e = InvalidArgument.noGroupFields) ∨
      (∃ r, s = .reduce r ∧ (∀ t ∈ steps, t.opening = none) ∧
        e = InvalidArgument.reduceOutsideGroup)) ∧
    (∀ more, (run { query } steps).groups.dropLast <+: (run { query } (steps ++ more)).groups ∧
      ((run { query } steps).groups ≠ [] →
        (run { query } (steps ++ more)).limit = (run { query } steps).limit)) := by
  refine ⟨lead_append_spans steps, groups_run _ steps,
    (limit_run _ steps).trans (if_pos rfl), ?_, ?_⟩
  · intro s e
    rw [step_eq_error_iff, run_groups_eq_nil_iff]
  · intro more
    have happend : run { query } (steps ++ more) = (run { query } steps).run more :=
      List.foldl_append
    rw [happend, groups_run _ more, limit_run _ more]
    exact ⟨(dropLast_isPrefix_updateLast _ _).trans (List.prefix_append _ _), fun h => if_neg h⟩

/-- Steps of two groups among which some are refused. -/
def withRefusals : List Step :=
  [.reduce { kind := .sum, field := some "@n" }, .groupBy [] [], .limit ⟨0, 5⟩,
    .groupBy ["@a"] [{ kind := .count }], .limit ⟨1, 2⟩, .groupBy [] [], .filter "@n > 1",
    .reduce { kind := .max, field := some "@n" }, .limit ⟨3, 4⟩, .groupBy ["@b"] []]

theorem run_by_spans_withRefusals :
    (run {} withRefusals).groups =
      [⟨["@a"], [{ kind := .count }, { kind := .max, field := some "@n" }], ⟨3, 4⟩⟩,
        ⟨["@b"], [], {}⟩] ∧
    (run {} withRefusals).limit = ⟨0, 5⟩ ∧
    (run {} withRefusals).groups ≠ [] ∧
    (run {} (withRefusals ++ [.limit ⟨7, 8⟩])).limit = (run {} withRefusals).limit := by
  obtain ⟨-, hgroups, hlimit, -, hmore⟩ := run_by_spans "*" withRefusals
  have hne : (run {} withRefusals).groups ≠ [] := List.cons_ne_nil _ _
  exact ⟨hgroups, hlimit, hne, (hmore [.limit ⟨7, 8⟩]).2 hne⟩

end Aggregation

end FullText
