import FullText.Number.Text
import FullText.Search.SortOrder
import FullText.Token

namespace FullText

open Tokens

inductive ReducerKind
  | count
  | countDistinct
  | countDistinctish
  | sum
  | min
  | max
  | avg
  | stdDev
  | quantile (percentile : Binary64)
  | firstValue (order : Option SortedField)
  | toList
  | randomSample (size : Nat)
deriving DecidableEq

namespace ReducerKind

def name : ReducerKind → String
  | count => "COUNT"
  | countDistinct => "COUNT_DISTINCT"
  | countDistinctish => "COUNT_DISTINCTISH"
  | sum => "SUM"
  | min => "MIN"
  | max => "MAX"
  | avg => "AVG"
  | stdDev => "STDDEV"
  | quantile _ => "QUANTILE"
  | firstValue _ => "FIRST_VALUE"
  | toList => "TOLIST"
  | randomSample _ => "RANDOM_SAMPLE"

def arguments : ReducerKind → List String
  | quantile percentile => [percentile.canonical]
  | firstValue (some s) => ["BY", s.field, s.order.name]
  | randomSample size => [size.repr]
  | _ => []

end ReducerKind

structure Reducer where
  kind : ReducerKind
  field : Option String := none
  asName : Option String := none
deriving DecidableEq

namespace Reducer

def arguments (r : Reducer) : List String := r.field.toList ++ r.kind.arguments

/-- The reducer and its arguments. An empty alias is none. -/
def tokens (r : Reducer) : Tokens :=
  ↑"REDUCE" :: ↑r.kind.name :: counted r.arguments ++
    keyed "AS" ((r.asName.filter (· ≠ "")).map .ofString)

end Reducer

end FullText
