import FullText.Json.Decoder
import FullText.Query.Tree

namespace FullText

open Json

namespace GeoUnit

def caseName : GeoUnit → String
  | kilometers => "Kilometers"
  | meters => "Meters"
  | feet => "Feet"
  | miles => "Miles"

def toJson (u : GeoUnit) : Json := .string u.caseName

def decoder : Decoder GeoUnit := fun depth j => do
  let v ← Decoder.variant depth j
  match v.name with
  | "Kilometers" => v.unit kilometers
  | "Meters" => v.unit meters
  | "Feet" => v.unit feet
  | "Miles" => v.unit miles
  | _ => none

end GeoUnit

namespace GeoArea

def memberNames : List String := ["lon", "lat", "radius", "unit"]

def members (a : GeoArea) : List (String × Json) :=
  [("lon", .ofNumber a.lon), ("lat", .ofNumber a.lat), ("radius", .ofNumber a.radius),
    ("unit", a.unit.toJson)]

def ofRecord (r : Record) : Option GeoArea := do
  return {
    lon := ← r.required "lon" .number
    lat := ← r.required "lat" .number
    radius := ← r.required "radius" .number
    unit := ← r.required "unit" GeoUnit.decoder }

end GeoArea

namespace Interval

def toJson (i : Interval) : Json :=
  .record [("from", .ofNumber i.lower.value), ("to", .ofNumber i.upper.value),
    ("inclusive_min", .bool !i.lower.exclusive), ("inclusive_max", .bool !i.upper.exclusive)]

def decoder : Decoder Interval := fun depth j => do
  let r ← Decoder.record ["from", "to", "inclusive_min", "inclusive_max"] depth j
  let lower ← r.required "from" .number
  let upper ← r.required "to" .number
  let inclusiveLower ← r.required "inclusive_min" .bool
  let inclusiveUpper ← r.required "inclusive_max" .bool
  return ⟨⟨lower, !inclusiveLower⟩, ⟨upper, !inclusiveUpper⟩⟩

end Interval

namespace Value

def toJson : Value → Json
  | scalar text => .variant "Scalar" (.string text)
  | range i => .variant "Range" i.toJson
  | geo area => .variant "Geo" (.record area.members)
  | tags names => .variant "Tags" (.ofTexts names)

def decoder : Decoder Value := fun depth j => do
  let v ← Decoder.variant depth j
  match v.name with
  | "Scalar" => scalar <$> v.holding .text
  | "Range" => range <$> v.holding Interval.decoder
  | "Geo" => (v.holding (.record GeoArea.memberNames)).bind fun r => geo <$> GeoArea.ofRecord r
  | "Tags" => tags <$> v.holding .texts
  | _ => none

end Value

namespace GroupKind

def caseName : GroupKind → String
  | intersect => "Intersect"
  | union => "Union"
  | disjunct => "Disjunct"
  | disjunctUnion => "DisjunctUnion"
  | optional => "Optional"

def decoder : Decoder GroupKind := fun depth j => do
  let v ← Decoder.variant depth j
  match v.name with
  | "Intersect" => v.unit intersect
  | "Union" => v.unit union
  | "Disjunct" => v.unit disjunct
  | "DisjunctUnion" => v.unit disjunctUnion
  | "Optional" => v.unit optional
  | _ => none

end GroupKind

namespace Clause

def toJson (c : Clause) : Json :=
  .record [("field", .string c.field), ("values", .ofList Value.toJson c.values),
    ("join", .string c.join)]

def decoder : Decoder Clause := fun depth j => do
  let r ← Decoder.record ["field", "values", "join"] depth j
  return {
    field := ← r.required "field" .text
    values := ← r.required "values" (.list Value.decoder)
    join := ← r.required "join" .text }

end Clause

namespace Node

mutual

/-- The node as a child of a group, where it says whether it is one itself. -/
def toJson : Node → Json
  | leaf clause => .variant "Leaf" clause.toJson
  | group kind children => .variant "Group" (.record
      [("kind", .string kind.caseName), ("children", .array (toJsonAll children))])

def toJsonAll : List Node → List Json
  | [] => []
  | n :: ns => n.toJson :: toJsonAll ns

end

/-- The node as a whole tree, which is a group. -/
def rootToJson : Node → Json
  | leaf clause => clause.toJson
  | group kind children => .record
      [("kind", .string kind.caseName), ("children", .array (toJsonAll children))]

def groupDecoder (child : Decoder Node) : Decoder Node := fun depth j => do
  let r ← Decoder.record ["kind", "children"] depth j
  return group (← r.required "kind" GroupKind.decoder) (← r.required "children" (.list child))

def childDecoder : Nat → Decoder Node
  | 0 => fun _ _ => none
  | fuel + 1 => fun depth j => do
    let v ← Decoder.variant depth j
    match v.name with
    | "Leaf" => leaf <$> v.holding Clause.decoder
    | "Group" => v.holding (groupDecoder (childDecoder fuel))
    | _ => none

/-- Each group opens a value of its own, so the depth bounds the nesting. -/
def rootDecoder : Decoder Node := fun depth j => groupDecoder (childDecoder depth) depth j

end Node

end FullText
