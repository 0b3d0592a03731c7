import FullText.Proofs.Aggregation.Run
import FullText.Proofs.Token.Reader

namespace FullText

open Tokens Tokens.Reader

/-- A kind of reducer with its own arguments, a percentile as it is written. -/
inductive ReducerKindWords
  | count
  | countDistinct
  | countDistinctish
  | sum
  | min
  | max
  | avg
  | stdDev
  | quantile (percentile : String)
  | firstValue (order : Option SortedField)
  | toList
  | randomSample (size : Nat)
deriving DecidableEq

structure ReducerWords where
  kind : ReducerKindWords
  field : Option String
  asName : Option String
deriving DecidableEq

structure GroupWords where
  fields : List String
  reducers : List ReducerWords
  limit : Limit
deriving DecidableEq

structure Sorting where
  fields : List SortedField := []
  max : Option Nat := none
deriving DecidableEq

structure PagingWords where
  count : Nat
  maxIdle : Option Nat
deriving DecidableEq

/-- What the tokens of an aggregation say. A projection is an alias and its expression. -/
structure AggregateCommand where
  query : String
  load : List String
  groups : List GroupWords
  projections : List (String × String)
  filters : List String
  sorting : Sorting
  limit : Limit
  paging : Option PagingWords
deriving DecidableEq

namespace ReducerWords

/-- How many of `count` arguments a kind of reducer takes after its field. -/
def ownCount (kind : String) (count : Nat) : Option Nat :=
  if kind = "FIRST_VALUE" then some (if count < 3 then 0 else 3)
  else if kind ∈ ["QUANTILE", "RANDOM_SAMPLE"] then some 1
  else if kind ∈ ["COUNT", "COUNT_DISTINCT", "COUNT_DISTINCTISH", "SUM", "MIN", "MAX", "AVG",
    "STDDEV", "TOLIST"] then some 0
  else none

/-- The field, if there is one more argument than the kind takes, and the other arguments. -/
def split (kind : String) (arguments : List String) : Option (Option String × List String) := do
  let own ← ownCount kind arguments.length
  if arguments.length = own then return (none, arguments)
  else if arguments.length = own + 1 then return (arguments.head?, arguments.tail)
  else none

def readKind : String → List String → Option ReducerKindWords
  | "COUNT", [] => some .count
  | "COUNT_DISTINCT", [] => some .countDistinct
  | "COUNT_DISTINCTISH", [] => some .countDistinctish
  | "SUM", [] => some .sum
  | "MIN", [] => some .min
  | "MAX", [] => some .max
  | "AVG", [] => some .avg
  | "STDDEV", [] => some .stdDev
  | "QUANTILE", [percentile] => some (.quantile percentile)
  | "FIRST_VALUE", [] => some (.firstValue none)
  | "FIRST_VALUE", ["BY", field, order] =>
    (readOrder order).map fun order => .firstValue (some ⟨field, order⟩)
  | "TOLIST", [] => some .toList
  | "RANDOM_SAMPLE", [size] => (Numeral.readCount size.toList).map .randomSample
  | _, _ => none

end ReducerWords

namespace AggregateCommand

def readReducer : Reader ReducerWords := do
  let name ← nextText
  let (field, arguments) ← ReducerWords.split name (← countedTexts)
  return { kind := ← ReducerWords.readKind name arguments, field, asName := ← clause "AS" nextText }

def limitPair : Reader Limit := do return ⟨← nextNat, ← nextNat⟩

def readLimit : Reader Limit := do return (← clause "LIMIT" limitPair).getD {}

def readGroup : Reader GroupWords := do
  return {
    fields := ← countedTexts
    reducers := ← items (clause "REDUCE" readReducer)
    limit := ← readLimit }

def readProjection : Reader (String × String) := do
  let expression ← nextText
  expect "AS"
  return (← nextText, expression)

def countedFields : Reader (List SortedField) := do
  let count ← nextNat
  guard (count % 2 = 0)
  times sortedField (count / 2)

def sortingBody : Reader Sorting := do
  return { fields := ← countedFields, max := ← clause "MAX" nextNat }

def readSorting : Reader Sorting := do return (← clause "SORTBY" sortingBody).getD {}

def readPaging : Reader PagingWords := do
  expect "COUNT"
  return { count := ← nextNat, maxIdle := ← clause "MAXIDLE" nextNat }

def reader : Reader AggregateCommand := do
  return {
    query := ← nextText
    load := ← textList "LOAD"
    groups := ← items (clause "GROUPBY" readGroup)
    projections := ← items (clause "APPLY" readProjection)
    filters := ← items (clause "FILTER" nextText)
    sorting := ← readSorting
    limit := ← readLimit
    paging := ← clause "WITHCURSOR" readPaging }

def read (ts : Tokens) : Option AggregateCommand := whole reader ts

end AggregateCommand

def ReducerKind.words : ReducerKind → ReducerKindWords
  | count => .count
  | countDistinct => .countDistinct
  | countDistinctish => .countDistinctish
  | sum => .sum
  | min => .min
  | max => .max
  | avg => .avg
  | stdDev => .stdDev
  | quantile percentile => .quantile percentile.canonical
  | firstValue order => .firstValue order
  | toList => .toList
  | randomSample size => .randomSample size

def Reducer.words (r : Reducer) : ReducerWords := ⟨r.kind.words, r.field, r.asName.filter (· ≠ "")⟩

def Group.words (g : Group) : GroupWords := ⟨g.fields, g.reducers.map Reducer.words, g.limit⟩

def Paging.words (p : Paging) : PagingWords :=
  ⟨p.count, (p.maxIdle.map fun d => d.nanoseconds / 1000000).filter (· < 18446744073709551615)⟩

namespace Aggregation

def words (a : Aggregation) : AggregateCommand where
  query := a.query
  load := a.load
  groups := a.groups.map Group.words
  projections := a.projections.entries
  filters := a.filters
  sorting := if a.sortBy.isEmpty then {} else ⟨a.sortBy, a.sortMax.filter (0 < ·)⟩
  limit := a.limit
  paging := a.paging.map Paging.words

def endsUnlimited (gs : List Group) : Bool :=
  (gs.getLast?.map fun g => g.limit.isUnset).getD false

/-- Whether the limit of the request follows a group without one in the tokens. -/
def limitIsGroups (a : Aggregation) : Bool :=
  endsUnlimited a.groups && a.projections.entries.isEmpty && a.filters.isEmpty && a.sortBy.isEmpty

/-- The request with its limit given to the last group, if it reads as the limit of that. -/
def settled (a : Aggregation) : Aggregation :=
  if a.limitIsGroups then
    { a with groups := updateLast (fun g => { g with limit := a.limit }) a.groups, limit := {} }
  else a

def command (a : Aggregation) : AggregateCommand := a.settled.words

end Aggregation

def ReducerKindWords.name : ReducerKindWords → String
  | count => "COUNT"
  | countDistinct => "COUNT_DISTINCT"
  | countDistinctish => "COUNT_DISTINCTISH"
  | sum => "SUM"
  | min => "MIN"
  | max => "MAX"
  | avg => "AVG"
  | stdDev => "STDDEV"
  | quantile _ => "QUANTILE"
  | firstValue _ => "FIRST_VALUE"
  | toList => "TOLIST"
  | randomSample _ => "RANDOM_SAMPLE"

def ReducerKindWords.arguments : ReducerKindWords → List String
  | quantile percentile => [percentile]
  | firstValue (some ⟨field, .asc⟩) => ["BY", field, "ASC"]
  | firstValue (some ⟨field, .desc⟩) => ["BY", field, "DESC"]
  | randomSample size => [size.repr]
  | _ => []

def ReducerWords.tokens (r : ReducerWords) : Tokens :=
  ↑"REDUCE" :: ↑r.kind.name :: counted (r.field.toList ++ r.kind.arguments) ++
    keyed "AS" (r.asName.map .ofString)

def GroupWords.tokens (g : GroupWords) : Tokens :=
  ↑"GROUPBY" :: counted g.fields ++ g.reducers.flatMap ReducerWords.tokens ++ g.limit.tokens

def Sorting.tokens (s : Sorting) : Tokens :=
  if s.fields.isEmpty then []
  else
    ↑"SORTBY" :: .ofNat (s.fields.length * 2) :: s.fields.flatMap SortedField.tokens ++
      keyed "MAX" (s.max.map .ofNat)

def PagingWords.tokens (p : PagingWords) : Tokens :=
  ↑"WITHCURSOR" :: ↑"COUNT" :: .ofNat p.count :: keyed "MAXIDLE" (p.maxIdle.map .ofNat)

namespace AggregateCommand

def tokens (c : AggregateCommand) : Tokens :=
  ↑c.query :: listed "LOAD" c.load ++ c.groups.flatMap GroupWords.tokens ++
    c.projections.flatMap Aggregation.projectionTokens ++
    c.filters.flatMap Aggregation.filterTokens ++ c.sorting.tokens ++ c.limit.tokens ++
    (c.paging.map PagingWords.tokens).getD []

theorem tokens_words_reducer (r : Reducer) : r.words.tokens = r.tokens := by
  have hname : r.kind.words.name = r.kind.name := by cases r.kind <;> rfl
  have harguments : r.kind.words.arguments = r.kind.arguments := by
    cases r.kind with
    | firstValue order => rcases order with _ | ⟨field, _ | _⟩ <;> rfl
    | _ => rfl
  rw [ReducerWords.tokens, Reducer.words, hname, harguments]
  rfl

theorem tokens_words (a : Aggregation) : a.words.tokens = a.tokens := by
  have hgroup (g : Group) : g.words.tokens = g.tokens := by
    rw [GroupWords.tokens, Group.words, List.flatMap_map]
    simp only [tokens_words_reducer]
    rfl
  have hsort : a.words.sorting.tokens = a.sortTokens := by
    rw [Aggregation.words, Aggregation.sortTokens]
    cases h : a.sortBy <;> rfl
  have hpaging : (a.words.paging.map PagingWords.tokens) = a.paging.map Paging.tokens := by
    rw [Aggregation.words, Option.map_map]
    rfl
  rw [tokens, hsort, hpaging, Aggregation.tokens]
  simp only [Aggregation.words, List.flatMap_map, hgroup]

theorem split_arguments (kind : ReducerKindWords) (field : Option String) :
    ReducerWords.split kind.name (field.toList ++ kind.arguments) =
      some (field, kind.arguments) := by
  cases kind with
  | firstValue order => rcases order with _ | ⟨_, _ | _⟩ <;> cases field <;> rfl
  | _ => cases field <;> rfl

theorem readKind_arguments (kind : ReducerKindWords) :
    ReducerWords.readKind kind.name kind.arguments = some kind := by
  cases kind with
  | firstValue order => rcases order with _ | ⟨_, _ | _⟩ <;> rfl
  | randomSample size =>
      change (Numeral.readCount size.repr.toList).map _ = _
      rw [Numeral.readCount_repr, Option.map_some]
  | _ => rfl

theorem readsAs_readReducer (r : ReducerWords) : ReadsAs ["AS"] readReducer
    (↑r.kind.name :: (counted (r.field.toList ++ r.kind.arguments) ++
      keyed "AS" (r.asName.map .ofString))) r := by
  refine (readsAs_nextText r.kind.name).seq <| (readsAs_countedTexts _).seq <|
    (readsAs_lift (split_arguments r.kind r.field)).seq <|
    (readsAs_lift (readKind_arguments r.kind)).seq ?_
  exact (isPart_keyedText "AS" r.asName).reads.bind_pure _

theorem isPart_reducers (rs : List Reducer) :
    IsPart ["REDUCE"] ["REDUCE", "AS"] (items (clause "REDUCE" readReducer))
      (rs.flatMap Reducer.tokens) (rs.map Reducer.words) := by
  have hitem (r : Reducer) :
      IsItem ["REDUCE"] ["AS"] (clause "REDUCE" readReducer) r.tokens r.words := by
    rw [← tokens_words_reducer]
    exact isItem_clause (readsAs_readReducer r.words) "REDUCE"
  have hpart := isPart_items hitem (by simp) (fun _ => clause_of_avoids readReducer) rs
  refine hpart.mono (List.Subset.refl _) ?_
  cases rs.getLast? <;> simp

theorem readsAs_limitPair (l : Limit) :
    ReadsAs [] limitPair [.ofNat l.offset, .ofNat l.count] l :=
  (readsAs_nextNat l.offset).seq ((readsAs_nextNat l.count).bind_pure _)

theorem isPart_limit (l : Limit) : IsPart ["LIMIT"] ["LIMIT"] readLimit l.tokens l := by
  have hpart (given : Option Limit) :=
    (isPart_clause readsAs_limitPair "LIMIT" given).bind_pure (Option.getD · {})
  rw [Limit.tokens]
  split
  next h =>
    have heq : l = {} := by
      obtain ⟨offset, count⟩ := l
      simpa [Limit.isUnset] using h
    rw [heq]
    exact hpart none
  next h => exact hpart (some l)

theorem limit_tokens_ne_nil {l : Limit} (h : l.isUnset = false) : l.tokens ≠ [] := by
  rw [Limit.tokens, h]
  exact List.cons_ne_nil _ _

theorem readsAs_limit {l : Limit} (h : l.isUnset = false) : ReadsAs [] readLimit l.tokens l := by
  rw [Limit.tokens, h]
  exact (readsAs_clause (readsAs_limitPair l) "LIMIT").bind_pure (Option.getD · {})

/-- The keywords that would lengthen a group: none behind its limit. -/
def groupStops (g : Group) : List String :=
  if g.limit.isUnset then ["REDUCE", "AS", "LIMIT"] else []

theorem readsAs_readGroup (g : Group) : ReadsAs (groupStops g) readGroup
    (counted g.fields ++ (g.reducers.flatMap Reducer.tokens ++ g.limit.tokens)) g.words := by
  refine (readsAs_countedTexts g.fields).seq ?_
  have hreducers := isPart_reducers g.reducers
  cases h : g.limit.isUnset with
  | true =>
      rw [groupStops, h]
      exact (hreducers.bind (by decide) ((isPart_limit g.limit).bind_pure _)).reads
  | false =>
      rw [groupStops, h]
      exact hreducers.reads.stopped (by decide) (isPart_limit g.limit).opens
        (limit_tokens_ne_nil h) ((readsAs_limit h).bind_pure _)

theorem isPart_groups (gs : List Group) :
    IsPart ["GROUPBY"] (["GROUPBY"] ++ (gs.getLast?.map groupStops).getD [])
      (items (clause "GROUPBY" readGroup)) (gs.flatMap Group.tokens) (gs.map Group.words) := by
  have hitem (g : Group) :
      IsItem ["GROUPBY"] (groupStops g) (clause "GROUPBY" readGroup) g.tokens g.words := by
    have hclause := isItem_clause (readsAs_readGroup g) "GROUPBY"
    rwa [← List.cons_append, ← List.append_assoc] at hclause
  refine isPart_items hitem ?_ (fun _ => clause_of_avoids readGroup) gs
  intro g k hk
  rw [groupStops] at hk
  split at hk
  · revert k
    decide
  · nomatch hk

theorem isPart_projections (ps : List (String × String)) :
    IsPart ["APPLY"] ["APPLY"] (items (clause "APPLY" readProjection))
      (ps.flatMap Aggregation.projectionTokens) ps := by
  have hbody (p : String × String) : ReadsAs [] readProjection [↑p.2, ↑"AS", ↑p.1] p :=
    (readsAs_nextText p.2).seq <| (readsAs_expect "AS").seq <| (readsAs_nextText p.1).bind_pure _
  have hpart := isPart_items (fun p => isItem_clause (hbody p) "APPLY") (by simp)
    (fun _ => clause_of_avoids readProjection) ps
  rw [List.map_id'] at hpart
  refine hpart.mono (List.Subset.refl _) ?_
  cases ps.getLast? <;> simp

theorem isPart_filters (fs : List String) :
    IsPart ["FILTER"] ["FILTER"] (items (clause "FILTER" nextText))
      (fs.flatMap Aggregation.filterTokens) fs := by
  have hpart := isPart_items (fun f => isItem_clause (readsAs_nextText f) "FILTER") (by simp)
    (fun _ => clause_of_avoids nextText) fs
  rw [List.map_id'] at hpart
  refine hpart.mono (List.Subset.refl _) ?_
  cases fs.getLast? <;> simp

theorem readsAs_countedFields (fields : List SortedField) :
    ReadsAs [] countedFields
      (.ofNat (fields.length * 2) :: fields.flatMap SortedField.tokens) fields := by
  have htimes := readsAs_times readsAs_sortedField fields
  rw [List.map_id', ← Nat.mul_div_cancel fields.length Nat.two_pos] at htimes
  have heven : ReadsAs [] (guard (fields.length * 2 % 2 = 0)) [] () := by
    rw [Nat.mul_mod_left]
    exact readsAs_pure ()
  exact (readsAs_nextNat (fields.length * 2)).seq (heven.seq htimes)

theorem isPart_sorting (a : Aggregation) :
    IsPart ["SORTBY"] ["SORTBY", "MAX"] readSorting a.sortTokens a.words.sorting := by
  have hbody (s : Sorting) : ReadsAs ["MAX"] sortingBody
      (.ofNat (s.fields.length * 2) :: s.fields.flatMap SortedField.tokens ++
        keyed "MAX" (s.max.map .ofNat)) s :=
    (readsAs_countedFields s.fields).seq ((isPart_keyedNat "MAX" s.max).reads.bind_pure _)
  have hpart (given : Option Sorting) :=
    (isPart_clause hbody "SORTBY" given).bind_pure (Option.getD · {})
  rw [Aggregation.sortTokens, Aggregation.words]
  split
  · exact hpart none
  · exact hpart (some ⟨a.sortBy, a.sortMax.filter (0 < ·)⟩)

theorem isPart_paging (given : Option Paging) :
    IsPart ["WITHCURSOR"] ["WITHCURSOR", "MAXIDLE"] (clause "WITHCURSOR" readPaging)
      ((given.map Paging.tokens).getD []) (given.map Paging.words) := by
  have hbody (p : Paging) : ReadsAs ["MAXIDLE"] readPaging
      (↑"COUNT" :: .ofNat p.count :: keyed "MAXIDLE" (p.words.maxIdle.map .ofNat)) p.words :=
    (readsAs_expect "COUNT").seq <| (readsAs_nextNat p.count).seq <|
      (isPart_keyedNat "MAXIDLE" p.words.maxIdle).reads.bind_pure _
  exact isPart_clause hbody "WITHCURSOR" given

def LimitIsOwn (a : Aggregation) : Prop := a.limitIsGroups → a.limit.isUnset

def groupFollowers (a : Aggregation) : List String :=
  if Aggregation.endsUnlimited a.groups then ["APPLY", "FILTER", "SORTBY", "WITHCURSOR"]
  else ["APPLY", "FILTER", "SORTBY", "LIMIT", "WITHCURSOR"]

def stageTokens (a : Aggregation) : Tokens :=
  a.projections.entries.flatMap Aggregation.projectionTokens ++
    (a.filters.flatMap Aggregation.filterTokens ++ (a.sortTokens ++ (a.limit.tokens ++
    (a.paging.map Paging.tokens).getD [])))

theorem opens_stageTokens {a : Aggregation} (h : LimitIsOwn a) :
    Opens (groupFollowers a) (stageTokens a) := by
  have hprojections := (isPart_projections a.projections.entries).opens
  have hfilters := (isPart_filters a.filters).opens
  have hsorting := (isPart_sorting a).opens
  have hlimit := (isPart_limit a.limit).opens
  have hpaging := (isPart_paging a.paging).opens
  rw [groupFollowers, stageTokens]
  split
  next hlast =>
    -- Without a limit on the last group, a limit comes next only if nothing is in between.
    by_cases hbare : a.projections.entries = [] ∧ a.filters = [] ∧ a.sortBy = []
    · have hunset : a.limit.isUnset := h (by simp [Aggregation.limitIsGroups, hlast, hbare])
      rw [Limit.tokens, hunset]
      exact hprojections.append (hfilters.append (hsorting.append hpaging))
    · have hne : a.projections.entries.flatMap Aggregation.projectionTokens ++
          (a.filters.flatMap Aggregation.filterTokens ++ a.sortTokens) ≠ [] := by
        simpa [Aggregation.projectionTokens, Aggregation.filterTokens, Aggregation.sortTokens,
          ← List.eq_nil_iff_forall_not_mem] using hbare
      have hstages := hprojections.append (hfilters.append hsorting)
      have hopens := hstages.append_of_ne_nil hne
        (a.limit.tokens ++ (a.paging.map Paging.tokens).getD [])
      rw [List.append_assoc, List.append_assoc] at hopens
      exact hopens.mono (by decide)
  next => exact hprojections.append (hfilters.append (hsorting.append (hlimit.append hpaging)))

theorem groupStops_disjoint (a : Aggregation) :
    ∀ k ∈ ["GROUPBY"] ++ (a.groups.getLast?.map groupStops).getD [], k ∉ groupFollowers a := by
  rw [groupFollowers, Aggregation.endsUnlimited]
  cases a.groups.getLast? with
  | none => decide
  | some g => cases h : g.limit.isUnset <;> simp [groupStops, h]

theorem load_disjoint (a : Aggregation) : ∀ k ∈ ["LOAD"], k ∉ ["GROUPBY"] ++ groupFollowers a := by
  rw [groupFollowers]
  split <;> decide

theorem whole_reader {a : Aggregation} (h : LimitIsOwn a) :
    whole reader a.tokens = some a.words := by
  rw [Aggregation.tokens]
  simp only [List.append_assoc, List.cons_append]
  exact ReadsAs.whole_eq <|
    (readsAs_nextText a.query).part (List.forall_mem_nil _) <|
    (isPart_textList "LOAD" a.load).bind (load_disjoint a) <|
    (isPart_groups a.groups).bind (groupStops_disjoint a) <|
    IsPart.opening (opens_stageTokens h) <|
    (isPart_projections a.projections.entries).bind (by decide) <|
    (isPart_filters a.filters).bind (by decide) <|
    (isPart_sorting a).bind (by decide) <|
    (isPart_limit a.limit).bind (by decide) <|
    (isPart_paging a.paging).bind_pure _

end AggregateCommand

namespace Aggregation

theorem endsUnlimited_iff (gs : List Group) :
    endsUnlimited gs ↔ ∃ init g, gs = init ++ [g] ∧ g.limit.isUnset := by
  rw [endsUnlimited]
  cases h : gs.getLast? with
  | none =>
      rw [List.getLast?_eq_none_iff] at h
      simp [h]
  | some g =>
      obtain ⟨init, rfl⟩ := List.getLast?_eq_some_iff.mp h
      simp

theorem tokens_settled (a : Aggregation) : a.settled.tokens = a.tokens := by
  rw [settled]
  split
  next h =>
    simp only [limitIsGroups, Bool.and_eq_true, List.isEmpty_iff] at h
    obtain ⟨⟨⟨hlast, hprojections⟩, hfilters⟩, hsort⟩ := h
    obtain ⟨init, g, hgroups, hunset⟩ := (endsUnlimited_iff a.groups).mp hlast
    have hnone : g.limit.tokens = [] := if_pos hunset
    have hempty : ({} : Limit).tokens = [] := rfl
    simp only [tokens, sortTokens, hgroups, updateLast_concat, hprojections, hfilters, hsort,
      List.flatMap_append, List.flatMap_singleton, Group.tokens, hnone, hempty]
    simp
  next => rfl

theorem limitIsOwn_settled (a : Aggregation) : AggregateCommand.LimitIsOwn a.settled := by
  rw [settled]
  split
  next h => exact fun _ => rfl
  next h => exact fun hgroups => absurd hgroups h

theorem tokens_command (a : Aggregation) : a.command.tokens = a.tokens :=
  (AggregateCommand.tokens_words a.settled).trans (tokens_settled a)

theorem read_tokens (a : Aggregation) : AggregateCommand.read a.tokens = some a.command := by
  rw [← tokens_settled]
  exact AggregateCommand.whole_reader (limitIsOwn_settled a)

/-- The tokens of an aggregation are read to the last one and say the whole request, whatever the
texts among them. So requests have the same tokens if and only if they are the same command. -/
theorem read_tokens_eq_settled (a : Aggregation) :
    AggregateCommand.read a.tokens = some a.command ∧
      ∀ b : Aggregation, b.tokens = a.tokens ↔ b.command = a.command := by
  refine ⟨read_tokens a, fun b => ⟨fun htokens => ?_, fun hcommand => ?_⟩⟩
  · have hb := read_tokens b
    rw [htokens, read_tokens a] at hb
    exact (Option.some.inj hb).symm
  · rw [← tokens_command b, hcommand, tokens_command a]

/-- The limit of the whole request becomes that of the group it follows. -/
example :
    command { groups := [⟨["@a"], [], {}⟩], limit := ⟨0, 5⟩ } =
      command { groups := [⟨["@a"], [], ⟨0, 5⟩⟩] } :=
  rfl

end Aggregation

end FullText
