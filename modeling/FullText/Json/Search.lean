import FullText.Json.Query
import FullText.Search.Query

namespace FullText

open Json

namespace SortOrder

def toJson : SortOrder → Json
  | asc => .string "Asc"
  | desc => .string "Desc"

def decoder : Decoder SortOrder := fun depth j => do
  let v ← Decoder.variant depth j
  match v.name with
  | "Asc" => v.unit asc
  | "Desc" => v.unit desc
  | _ => none

end SortOrder

namespace SortedField

def toJson (s : SortedField) : Json :=
  .record [("field", .string s.field), ("order", s.order.toJson)]

def decoder : Decoder SortedField := fun depth j => do
  let r ← Decoder.record ["field", "order"] depth j
  return ⟨← r.required "field" .text, ← r.required "order" SortOrder.decoder⟩

end SortedField

namespace Filter

def toJson : Filter → Json
  | numeric property i => .variant "Numeric" (.record
      [("property", .string property), ("min", .ofNumber i.lower.value),
        ("max", .ofNumber i.upper.value), ("exclusive_min", .bool i.lower.exclusive),
        ("exclusive_max", .bool i.upper.exclusive)])
  | geo property area => .variant "Geo" (.record (("property", .string property) :: area.members))

def numericDecoder : Decoder Filter := fun depth j => do
  let r ← Decoder.record ["property", "min", "max", "exclusive_min", "exclusive_max"] depth j
  let property ← r.required "property" .text
  let lower ← r.required "min" .number
  let upper ← r.required "max" .number
  let exclusiveLower ← r.required "exclusive_min" .bool
  let exclusiveUpper ← r.required "exclusive_max" .bool
  return numeric property ⟨⟨lower, exclusiveLower⟩, ⟨upper, exclusiveUpper⟩⟩

def geoDecoder : Decoder Filter := fun depth j => do
  let r ← Decoder.record ("property" :: GeoArea.memberNames) depth j
  return geo (← r.required "property" .text) (← GeoArea.ofRecord r)

def decoder : Decoder Filter := fun depth j => do
  let v ← Decoder.variant depth j
  match v.name with
  | "Numeric" => v.holding numericDecoder
  | "Geo" => v.holding geoDecoder
  | _ => none

end Filter

namespace ReturnField

def toJson (f : ReturnField) : Json :=
  .record [("name", .string f.name), ("alias", .ofOption .string f.asName)]

def decoder : Decoder ReturnField := fun depth j => do
  let r ← Decoder.record ["name", "alias"] depth j
  return ⟨← r.required "name" .text, ← r.optional "alias" .text⟩

end ReturnField

namespace Highlight

def toJson (h : Highlight) : Json :=
  .record [("fields", .ofTexts h.fields),
    ("tags", .ofOption (fun t => .ofTexts [t.1, t.2]) h.tags)]

def decoder : Decoder Highlight := fun depth j => do
  let r ← Decoder.record ["fields", "tags"] depth j
  return ⟨← r.required "fields" .texts, ← r.optional "tags" (.pair .text .text)⟩

end Highlight

namespace Summary

def toJson (s : Summary) : Json :=
  .record [("fields", .ofTexts s.fields), ("fragment_count", .ofOption .ofNat s.fragments),
    ("fragment_len", .ofOption .ofNat s.length), ("separator", .ofOption .string s.separator)]

def decoder : Decoder Summary := fun depth j => do
  let r ← Decoder.record ["fields", "fragment_count", "fragment_len", "separator"] depth j
  return {
    fields := ← r.required "fields" .texts
    fragments := ← r.optional "fragment_count" (.natural 32)
    length := ← r.optional "fragment_len" (.natural 32)
    separator := ← r.optional "separator" .text }

end Summary

namespace Query

def payloadToJson (t : Token) : Json := .ofList (fun b => .ofNat b.toNat) t.bytes.data.toList

def payloadDecoder : Decoder Token := fun depth j =>
  (Decoder.list (.natural 8) depth j).map fun bytes => ⟨⟨(bytes.map UInt8.ofNat).toArray⟩⟩

def sortToJson (s : SortedField) : Json := .array [.string s.field, s.order.toJson]

def sortDecoder : Decoder SortedField := fun depth j =>
  (Decoder.pair .text SortOrder.decoder depth j).map fun p => ⟨p.1, p.2⟩

def toJson (q : Query) : Json :=
  .record [("query_string", .string q.text), ("offset", .ofNat q.offset), ("count", .ofNat q.count),
    ("verbatim", .bool q.verbatim), ("no_content", .bool q.noContent),
    ("no_stopwords", .bool q.noStopwords), ("with_scores", .bool q.withScores),
    ("with_payloads", .bool q.withPayloads), ("language", .ofOption .string q.language),
    ("scorer", .ofOption .string q.scorer), ("in_fields", .ofTexts q.inFields),
    ("in_keys", .ofTexts q.inKeys), ("return_fields", .ofList ReturnField.toJson q.returnFields),
    ("sort_by", .ofOption sortToJson q.sortBy), ("payload", .ofOption payloadToJson q.payload),
    ("highlight", .ofOption Highlight.toJson q.highlight),
    ("summarize", .ofOption Summary.toJson q.summary),
    ("filters", .ofList Filter.toJson q.filters)]

def memberNames : List String :=
  ["query_string", "offset", "count", "verbatim", "no_content", "no_stopwords", "with_scores",
    "with_payloads", "language", "scorer", "in_fields", "in_keys", "return_fields", "sort_by",
    "payload", "highlight", "summarize", "filters"]

def decoder : Decoder Query := fun depth j => do
  let r ← Decoder.record memberNames depth j
  return {
    text := ← r.required "query_string" .text
    offset := ← r.required "offset" (.natural 64)
    count := ← r.required "count" (.natural 64)
    verbatim := ← r.required "verbatim" .bool
    noContent := ← r.required "no_content" .bool
    noStopwords := ← r.required "no_stopwords" .bool
    withScores := ← r.required "with_scores" .bool
    withPayloads := ← r.required "with_payloads" .bool
    language := ← r.optional "language" .text
    scorer := ← r.optional "scorer" .text
    inFields := ← r.required "in_fields" .texts
    inKeys := ← r.required "in_keys" .texts
    returnFields := ← r.required "return_fields" (.list ReturnField.decoder)
    sortBy := ← r.optional "sort_by" sortDecoder
    payload := ← r.optional "payload" payloadDecoder
    highlight := ← r.optional "highlight" Highlight.decoder
    summary := ← r.optional "summarize" Summary.decoder
    filters := ← r.required "filters" (.list Filter.decoder) }

end Query

end FullText
