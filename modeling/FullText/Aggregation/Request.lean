import FullText.Aggregation.Reducer
import FullText.Error
import FullText.Table

namespace FullText

open Tokens

/-- A window of rows. An offset and a count of zero stand for none. -/
structure Limit where
  offset : Nat := 0
  count : Nat := 0
deriving DecidableEq

namespace Limit

def isUnset (l : Limit) : Bool := l.offset = 0 && l.count = 0

def tokens (l : Limit) : Tokens :=
  if l.isUnset then [] else ["LIMIT", .ofNat l.offset, .ofNat l.count]

end Limit

structure Group where
  fields : List String
  reducers : List Reducer
  limit : Limit := {}
deriving DecidableEq

def Group.tokens (g : Group) : Tokens :=
  ↑"GROUPBY" :: counted g.fields ++ g.reducers.flatMap Reducer.tokens ++ g.limit.tokens

structure Duration where
  nanoseconds : Nat
deriving DecidableEq

namespace Duration

def second : Nat := 1000000000

def milliseconds (d : Duration) : Nat := d.nanoseconds / (second / 1000)

def ofParts (seconds nanoseconds : Nat) : Duration := ⟨seconds * second + nanoseconds⟩

end Duration

structure Paging where
  count : Nat
  maxIdle : Option Duration
deriving DecidableEq

/-- The paging clause. An idle time of at least the greatest number of milliseconds that 64 bits
hold is left out. -/
def Paging.tokens (p : Paging) : Tokens :=
  let idle := (p.maxIdle.map Duration.milliseconds).filter (· < UInt64.size - 1)
  ↑"WITHCURSOR" :: ↑"COUNT" :: .ofNat p.count :: keyed "MAXIDLE" (idle.map .ofNat)

structure Aggregation where
  query : String := "*"
  load : List String := []
  groups : List Group := []
  projections : Table String := ∅
  filters : List String := []
  sortBy : List SortedField := []
  sortMax : Option Nat := none
  limit : Limit := {}
  paging : Option Paging := none

namespace Aggregation

inductive Step
  | load (fields : List String)
  | groupBy (fields : List String) (reducers : List Reducer)
  | reduce (reducer : Reducer)
  | limit (limit : Limit)
  | apply (expression asName : String)
  | filter (expression : String)
  | sortBy (fields : List SortedField)
  | sortByMax (max : Nat) (fields : List SortedField)
  | page (count : Nat) (maxIdle : Option Duration)
deriving DecidableEq

def updateLast (f : Group → Group) : List Group → List Group
  | [] => []
  | [g] => [f g]
  | g :: gs => g :: updateLast f gs

/-- The request after a step. Projecting under an alias again changes its expression in place, and
pages of no rows are no paging. -/
def step (a : Aggregation) : Step → Except Error Aggregation
  | .load fields => .ok { a with load := a.load ++ fields }
  | .groupBy fields reducers =>
    if fields.isEmpty then .error InvalidArgument.noGroupFields
    else .ok { a with groups := a.groups ++ [{ fields, reducers }] }
  | .reduce r =>
    if a.groups.isEmpty then .error InvalidArgument.reduceOutsideGroup
    else
      let add (g : Group) : Group := { g with reducers := g.reducers ++ [r] }
      .ok { a with groups := updateLast add a.groups }
  | .limit limit =>
    if a.groups.isEmpty then .ok { a with limit }
    else .ok { a with groups := updateLast (fun g => { g with limit }) a.groups }
  | .apply expression asName => .ok { a with projections := a.projections.insert asName expression }
  | .filter expression => .ok { a with filters := a.filters ++ [expression] }
  | .sortBy fields => .ok { a with sortBy := a.sortBy ++ fields }
  | .sortByMax max fields => .ok { a with sortBy := a.sortBy ++ fields, sortMax := some max }
  | .page count maxIdle => .ok { a with paging := if count = 0 then none else some ⟨count, maxIdle⟩ }

def stepOrKeep (a : Aggregation) (s : Step) : Aggregation := (a.step s).toOption.getD a

def projectionTokens (p : String × String) : Tokens := ["APPLY", p.2, "AS", p.1]

def filterTokens (expression : String) : Tokens := ["FILTER", expression]

def sortTokens (a : Aggregation) : Tokens :=
  if a.sortBy.isEmpty then []
  else
    ↑"SORTBY" :: .ofNat (a.sortBy.length * 2) ::
      a.sortBy.flatMap SortedField.tokens ++
      keyed "MAX" ((a.sortMax.filter (0 < ·)).map .ofNat)

def tokens (a : Aggregation) : Tokens :=
  ↑a.query :: listed "LOAD" a.load ++
    a.groups.flatMap Group.tokens ++
    a.projections.entries.flatMap projectionTokens ++
    a.filters.flatMap filterTokens ++
    a.sortTokens ++
    a.limit.tokens ++
    (a.paging.map Paging.tokens).getD []

end Aggregation

end FullText
