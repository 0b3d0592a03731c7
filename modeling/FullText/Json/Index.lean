import FullText.Index.Schema
import FullText.Json.Decoder

namespace FullText

open Json

namespace FieldType

def toJson : FieldType → Json
  | text weight noStem phonetic => .variant "Text" (.record
      [("weight", .ofNumber weight), ("no_stem", .bool noStem),
        ("phonetic", .ofOption .string phonetic)])
  | numeric => .string "Numeric"
  | geo => .string "Geo"
  | tag separator => .variant "Tag" (.record [("separator", .ofOption .string separator)])

def textDecoder : Decoder FieldType := fun depth j => do
  let r ← Decoder.record ["weight", "no_stem", "phonetic"] depth j
  return text (← r.required "weight" .number) (← r.required "no_stem" .bool)
    (← r.optional "phonetic" .text)

def tagDecoder : Decoder FieldType := fun depth j => do
  let r ← Decoder.record ["separator"] depth j
  return tag (← r.optional "separator" .text)

def decoder : Decoder FieldType := fun depth j => do
  let v ← Decoder.variant depth j
  match v.name with
  | "Text" => v.holding textDecoder
  | "Numeric" => v.unit numeric
  | "Geo" => v.unit geo
  | "Tag" => v.holding tagDecoder
  | _ => none

end FieldType

namespace Field

def toJson (f : Field) : Json :=
  .record [("name", .string f.name), ("path", .ofOption .string f.path),
    ("field_type", f.type.toJson), ("sortable", .bool f.sortable), ("no_index", .bool f.noIndex)]

def decoder : Decoder Field := fun depth j => do
  let r ← Decoder.record ["name", "path", "field_type", "sortable", "no_index"] depth j
  return {
    name := ← r.required "name" .text
    path := ← r.optional "path" .text
    type := ← r.required "field_type" FieldType.decoder
    sortable := ← r.required "sortable" .bool
    noIndex := ← r.required "no_index" .bool }

end Field

namespace Schema

def toJson (s : Schema) : Json := .record [("fields", .ofList Field.toJson s.fields)]

def decoder : Decoder Schema := fun depth j => do
  let r ← Decoder.record ["fields"] depth j
  return ⟨← r.required "fields" (.list Field.decoder)⟩

end Schema

namespace DocumentKind

def toJson : DocumentKind → Json
  | hash => .string "Hash"
  | json => .string "Json"

def decoder : Decoder DocumentKind := fun depth j => do
  let v ← Decoder.variant depth j
  match v.name with
  | "Hash" => v.unit hash
  | "Json" => v.unit json
  | _ => none

end DocumentKind

namespace IndexDefinition

def toJson (d : IndexDefinition) : Json :=
  .record [("on", d.on.toJson), ("prefixes", .ofTexts d.prefixes),
    ("filter", .ofOption .string d.filter), ("language", .ofOption .string d.language),
    ("language_field", .ofOption .string d.languageField), ("score", .ofOption .ofNumber d.score),
    ("score_field", .ofOption .string d.scoreField),
    ("payload_field", .ofOption .string d.payloadField)]

def memberNames : List String :=
  ["on", "prefixes", "filter", "language", "language_field", "score", "score_field",
    "payload_field"]

def decoder : Decoder IndexDefinition := fun depth j => do
  let r ← Decoder.record memberNames depth j
  return {
    on := ← r.required "on" DocumentKind.decoder
    prefixes := ← r.required "prefixes" .texts
    filter := ← r.optional "filter" .text
    language := ← r.optional "language" .text
    languageField := ← r.optional "language_field" .text
    score := ← r.optional "score" .number
    scoreField := ← r.optional "score_field" .text
    payloadField := ← r.optional "payload_field" .text }

end IndexDefinition

namespace IndexOptions

def toJson (o : IndexOptions) : Json :=
  .record [("no_offsets", .bool o.noOffsets), ("no_fields", .bool o.noFields),
    ("no_freqs", .bool o.noFreqs), ("temporary", .ofOption .ofNat o.temporary),
    ("stopwords", .ofOption .ofTexts o.stopwords)]

def decoder : Decoder IndexOptions := fun depth j => do
  let r ← Decoder.record ["no_offsets", "no_fields", "no_freqs", "temporary", "stopwords"] depth j
  return {
    noOffsets := ← r.required "no_offsets" .bool
    noFields := ← r.required "no_fields" .bool
    noFreqs := ← r.required "no_freqs" .bool
    temporary := ← r.optional "temporary" (.natural 64)
    stopwords := ← r.optional "stopwords" .texts }

end IndexOptions

structure IndexPlan where
  schema : Schema
  definition : Option IndexDefinition
  options : IndexOptions

namespace IndexPlan

def toJson (p : IndexPlan) : Json :=
  .array [p.schema.toJson, .ofOption IndexDefinition.toJson p.definition, p.options.toJson]

def decoder : Decoder IndexPlan
  | depth + 1, .array [schema, definition, options] => do
    return ⟨← Schema.decoder depth schema, ← IndexDefinition.decoder.option depth definition,
      ← IndexOptions.decoder depth options⟩
  | _, _ => none

end IndexPlan

end FullText
