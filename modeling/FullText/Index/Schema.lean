import FullText.Error
import FullText.Token

namespace FullText

open Tokens

inductive FieldType
  | text (weight : Binary64) (noStem : Bool) (phonetic : Option String)
  | numeric
  | geo
  | tag (separator : Option String)
deriving DecidableEq

def FieldType.keyword : FieldType → String
  | text .. => "TEXT"
  | numeric => "NUMERIC"
  | geo => "GEO"
  | tag _ => "TAG"

def FieldType.optionTokens : FieldType → Tokens
  | text weight noStem phonetic =>
    keyed "WEIGHT" (if weight = .one then none else some (.ofString weight.canonical)) ++
      flag noStem "NOSTEM" ++
      keyed "PHONETIC" (phonetic.map .ofString)
  | tag separator => keyed "SEPARATOR" (separator.map .ofString)
  | numeric | geo => []

structure Field where
  name : String
  path : Option String := none
  type : FieldType
  sortable : Bool := false
  noIndex : Bool := false
deriving DecidableEq

namespace Field

def text (name : String) (weight : Binary64 := .one) : Field :=
  { name, type := .text weight false none }

def numeric (name : String) : Field := { name, type := .numeric }

def geo (name : String) : Field := { name, type := .geo }

def tag (name : String) (separator : Option String := none) : Field :=
  { name, type := .tag separator }

def tokens (f : Field) : Tokens :=
  (match f.path with
    | none => [↑f.name]
    | some path => [↑path, ↑"AS", ↑f.name]) ++
    ↑f.type.keyword :: f.type.optionTokens ++
    flag f.sortable "SORTABLE" ++ flag f.noIndex "NOINDEX"

end Field

structure Schema where
  fields : List Field
deriving DecidableEq

inductive DocumentKind
  | hash
  | json
deriving DecidableEq

def DocumentKind.keyword : DocumentKind → String
  | hash => "HASH"
  | json => "JSON"

structure IndexDefinition where
  on : DocumentKind := .hash
  prefixes : List String := []
  filter : Option String := none
  language : Option String := none
  languageField : Option String := none
  score : Option Binary64 := none
  scoreField : Option String := none
  payloadField : Option String := none
deriving DecidableEq

def IndexDefinition.tokens (d : IndexDefinition) : Tokens :=
  ↑"ON" :: ↑d.on.keyword :: listed "PREFIX" d.prefixes ++
    keyed "FILTER" (d.filter.map .ofString) ++
    keyed "LANGUAGE" (d.language.map .ofString) ++
    keyed "LANGUAGE_FIELD" (d.languageField.map .ofString) ++
    keyed "SCORE" (d.score.map fun x => .ofString x.canonical) ++
    keyed "SCORE_FIELD" (d.scoreField.map .ofString) ++
    keyed "PAYLOAD_FIELD" (d.payloadField.map .ofString)

/-- How an index is stored. No stopwords at all is an empty list of them. -/
structure IndexOptions where
  noOffsets : Bool := false
  noFields : Bool := false
  noFreqs : Bool := false
  temporary : Option Nat := none
  stopwords : Option (List String) := none
deriving DecidableEq

def IndexOptions.tokens (o : IndexOptions) : Tokens :=
  flag o.noOffsets "NOOFFSETS" ++
    keyed "TEMPORARY" (o.temporary.map .ofNat) ++
    flag o.noFields "NOFIELDS" ++
    flag o.noFreqs "NOFREQS" ++
    match o.stopwords with
    | none => []
    | some words => ↑"STOPWORDS" :: counted words

/-- What creates an index of the given name. A schema has at least one field. -/
def Schema.createTokens (s : Schema) (index : String) (definition : Option IndexDefinition)
    (options : IndexOptions) : Except Error Tokens :=
  if s.fields.isEmpty then .error InvalidArgument.noSchemaFields
  else .ok (↑index :: (definition.map IndexDefinition.tokens).getD [] ++ options.tokens ++
    ↑"SCHEMA" :: s.fields.flatMap Field.tokens)

end FullText
