import FullText.Aggregation.Request
import FullText.Json.Search

namespace FullText

open Json

namespace ReducerKind

def toJson : ReducerKind → Json
  | count => .string "Count"
  | countDistinct => .string "CountDistinct"
  | countDistinctish => .string "CountDistinctish"
  | sum => .string "Sum"
  | min => .string "Min"
  | max => .string "Max"
  | avg => .string "Avg"
  | stdDev => .string "StdDev"
  | quantile percentile => .variant "Quantile" (.ofNumber percentile)
  | firstValue order => .variant "FirstValue" (.ofOption SortedField.toJson order)
  | toList => .string "ToList"
  | randomSample size => .variant "RandomSample" (.ofNat size)

def decoder : Decoder ReducerKind := fun depth j => do
  let v ← Decoder.variant depth j
  match v.name with
  | "Count" => v.unit count
  | "CountDistinct" => v.unit countDistinct
  | "CountDistinctish" => v.unit countDistinctish
  | "Sum" => v.unit sum
  | "Min" => v.unit min
  | "Max" => v.unit max
  | "Avg" => v.unit avg
  | "StdDev" => v.unit stdDev
  | "Quantile" => quantile <$> v.holding .number
  | "FirstValue" => firstValue <$> v.holding SortedField.decoder.option
  | "ToList" => v.unit toList
  | "RandomSample" => randomSample <$> v.holding (.natural 32)
  | _ => none

end ReducerKind

namespace Reducer

def toJson (r : Reducer) : Json :=
  .record [("kind", r.kind.toJson), ("field", .ofOption .string r.field),
    ("alias", .ofOption .string r.asName)]

def decoder : Decoder Reducer := fun depth j => do
  let r ← Decoder.record ["kind", "field", "alias"] depth j
  return {
    kind := ← r.required "kind" ReducerKind.decoder
    field := ← r.optional "field" .text
    asName := ← r.optional "alias" .text }

end Reducer

namespace Limit

def toJson (l : Limit) : Json :=
  .record [("offset", .ofNat l.offset), ("count", .ofNat l.count)]

def decoder : Decoder Limit := fun depth j => do
  let r ← Decoder.record ["offset", "count"] depth j
  return ⟨← r.required "offset" (.natural 64), ← r.required "count" (.natural 64)⟩

end Limit

namespace Group

def toJson (g : Group) : Json :=
  .record [("fields", .ofTexts g.fields), ("reducers", .ofList Reducer.toJson g.reducers),
    ("limit", g.limit.toJson)]

def decoder : Decoder Group := fun depth j => do
  let r ← Decoder.record ["fields", "reducers", "limit"] depth j
  return {
    fields := ← r.required "fields" .texts
    reducers := ← r.required "reducers" (.list Reducer.decoder)
    limit := ← r.required "limit" Limit.decoder }

end Group

namespace Duration

def toJson (d : Duration) : Json :=
  .record [("secs", .ofNat (d.nanoseconds / second)), ("nanos", .ofNat (d.nanoseconds % second))]

/-- Nanoseconds may make up further seconds, as long as 64 bits hold the seconds. -/
def decoder : Decoder Duration := fun depth j => do
  let r ← Decoder.closedRecord ["secs", "nanos"] depth j
  let d := ofParts (← r.required "secs" (.natural 64)) (← r.required "nanos" (.natural 32))
  if d.nanoseconds < UInt64.size * second then some d else none

end Duration

namespace Paging

def toJson (p : Paging) : Json :=
  .record [("count", .ofNat p.count), ("max_idle", .ofOption Duration.toJson p.maxIdle)]

def decoder : Decoder Paging := fun depth j => do
  let r ← Decoder.record ["count", "max_idle"] depth j
  return ⟨← r.required "count" (.natural 32), ← r.optional "max_idle" Duration.decoder⟩

end Paging

namespace Aggregation

def projectionsToJson (t : Table String) : Json := .ofList (fun p => .ofTexts [p.1, p.2]) t.entries

def projectionsDecoder : Decoder (Table String) := fun depth j =>
  (Decoder.list (.pair .text .text) depth j).map (⟨·⟩)

def toJson (a : Aggregation) : Json :=
  .record [("query", .string a.query), ("load", .ofTexts a.load),
    ("groups", .ofList Group.toJson a.groups), ("projections", projectionsToJson a.projections),
    ("filters", .ofTexts a.filters), ("sort_by", .ofList SortedField.toJson a.sortBy),
    ("sort_by_max", .ofOption .ofNat a.sortMax), ("limit", a.limit.toJson),
    ("cursor", .ofOption Paging.toJson a.paging)]

def memberNames : List String :=
  ["query", "load", "groups", "projections", "filters", "sort_by", "sort_by_max", "limit",
    "cursor"]

def decoder : Decoder Aggregation := fun depth j => do
  let r ← Decoder.record memberNames depth j
  return {
    query := ← r.required "query" .text
    load := ← r.required "load" .texts
    groups := ← r.required "groups" (.list Group.decoder)
    projections := ← r.required "projections" projectionsDecoder
    filters := ← r.required "filters" .texts
    sortBy := ← r.required "sort_by" (.list SortedField.decoder)
    sortMax := ← r.optional "sort_by_max" (.natural 64)
    limit := ← r.required "limit" Limit.decoder
    paging := ← r.optional "cursor" Paging.decoder }

end Aggregation

end FullText
