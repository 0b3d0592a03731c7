import FullText.Index.Schema
import FullText.Proofs.Token.Reader

namespace FullText

open Tokens Tokens.Reader

inductive TypeWords
  | text (weight : Option String) (noStem : Bool) (phonetic : Option String)
  | numeric
  | geo
  | tag (separator : Option String)
deriving DecidableEq

structure FieldWords where
  name : String
  path : Option String
  type : TypeWords
  sortable : Bool
  noIndex : Bool
deriving DecidableEq

structure DefinitionWords where
  on : DocumentKind
  prefixes : List String
  filter : Option String
  language : Option String
  languageField : Option String
  score : Option String
  scoreField : Option String
  payloadField : Option String
deriving DecidableEq

structure CreateCommand where
  index : String
  definition : Option DefinitionWords
  options : IndexOptions
  fields : List FieldWords
deriving DecidableEq

namespace CreateCommand

def readType (keyword : String) : Reader TypeWords := do
  if keyword = "TEXT" then
    return .text (← clause "WEIGHT" nextText) (← accept "NOSTEM") (← clause "PHONETIC" nextText)
  else if keyword = "NUMERIC" then return .numeric
  else if keyword = "GEO" then return .geo
  else if keyword = "TAG" then return .tag (← clause "SEPARATOR" nextText)
  else failure

def readNames : Reader (Option String × String) := do
  let first ← nextText
  if ← accept "AS" then return (some first, ← nextText) else return (none, first)

def readField : Reader FieldWords := do
  let (path, name) ← readNames
  return {
    name, path
    type := ← readType (← nextText)
    sortable := ← accept "SORTABLE"
    noIndex := ← accept "NOINDEX" }

def readKind : String → Option DocumentKind
  | "HASH" => some .hash
  | "JSON" => some .json
  | _ => none

def readDefinition : Reader DefinitionWords := do
  return {
    on := ← readKind (← nextText)
    prefixes := ← textList "PREFIX"
    filter := ← clause "FILTER" nextText
    language := ← clause "LANGUAGE" nextText
    languageField := ← clause "LANGUAGE_FIELD" nextText
    score := ← clause "SCORE" nextText
    scoreField := ← clause "SCORE_FIELD" nextText
    payloadField := ← clause "PAYLOAD_FIELD" nextText }

def readOptions : Reader IndexOptions := do
  let noOffsets ← accept "NOOFFSETS"
  let temporary ← clause "TEMPORARY" nextNat
  return {
    noOffsets, temporary
    noFields := ← accept "NOFIELDS"
    noFreqs := ← accept "NOFREQS"
    stopwords := ← clause "STOPWORDS" countedTexts }

def reader : Reader CreateCommand := do
  let index ← nextText
  let definition ← clause "ON" readDefinition
  let options ← readOptions
  expect "SCHEMA"
  return { index, definition, options, fields := ← items (unlessDone readField) }

def read (ts : Tokens) : Option CreateCommand := whole reader ts

end CreateCommand

def FieldType.words : FieldType → TypeWords
  | text weight noStem phonetic =>
    .text (if weight = .one then none else some weight.canonical) noStem phonetic
  | numeric => .numeric
  | geo => .geo
  | tag separator => .tag separator

def Field.words (f : Field) : FieldWords := ⟨f.name, f.path, f.type.words, f.sortable, f.noIndex⟩

def IndexDefinition.words (d : IndexDefinition) : DefinitionWords where
  on := d.on
  prefixes := d.prefixes
  filter := d.filter
  language := d.language
  languageField := d.languageField
  score := d.score.map Binary64.canonical
  scoreField := d.scoreField
  payloadField := d.payloadField

/-- The words that may stand in a field behind its type. -/
def fieldOptions : List String :=
  ["WEIGHT", "NOSTEM", "PHONETIC", "SEPARATOR", "SORTABLE", "NOINDEX"]

namespace CreateCommand

theorem isPart_optionTokens (t : FieldType) :
    IsPart ["WEIGHT", "NOSTEM", "PHONETIC", "SEPARATOR"]
      ["WEIGHT", "NOSTEM", "PHONETIC", "SEPARATOR"] (readType t.keyword) t.optionTokens
      t.words := by
  cases t with
  | text weight noStem phonetic =>
      have hweight :=
        isPart_keyedText "WEIGHT" (if weight = .one then none else some weight.canonical)
      rw [apply_ite (Option.map Token.ofString)] at hweight
      rw [FieldType.optionTokens, List.append_assoc]
      exact IsPart.mono (hweight.bind (by decide) <|
        (isPart_accept noStem "NOSTEM").bind (by decide) <|
        (isPart_keyedText "PHONETIC" phonetic).bind_pure _) (by decide) (by decide)
  | tag separator =>
      exact ((isPart_keyedText "SEPARATOR" separator).bind_pure TypeWords.tag).mono (by decide)
        (by decide)
  | numeric => exact ⟨opens_nil _, (readsAs_pure TypeWords.numeric).mono (List.nil_subset _)⟩
  | geo => exact ⟨opens_nil _, (readsAs_pure TypeWords.geo).mono (List.nil_subset _)⟩

def nameTokens (f : Field) : Tokens :=
  match f.path with
  | none => [f.name]
  | some path => [path, "AS", f.name]

theorem readsAs_readNames (f : Field) :
    ReadsAs ["AS"] readNames (nameTokens f) (f.path, f.name) := by
  rw [nameTokens]
  cases f.path with
  | none =>
      refine (readsAs_nextText f.name).seq ?_
      intro rest hrest
      exact bind_eq (accept_of_avoids hrest)
  | some path =>
      refine ReadsAs.mono ?_ (List.nil_subset _)
      refine (readsAs_nextText path).seq ?_
      intro rest hrest
      exact (bind_eq (accept_cons "AS" _)).trans
        ((readsAs_nextText f.name).bind_pure (fun name => (some path, name)) rest hrest)

theorem readsAs_readField (f : Field) : ReadsAs fieldOptions readField f.tokens f.words := by
  have hkeyword : Opens [f.type.keyword] (↑f.type.keyword :: (f.type.optionTokens ++
      (flag f.sortable "SORTABLE" ++ flag f.noIndex "NOINDEX"))) :=
    opens_cons List.mem_cons_self _
  -- The keyword of the type always stands between the name and the options.
  have hnotAs : ∀ k ∈ ["AS"], k ∉ [f.type.keyword] := by
    cases f.type <;> simp [FieldType.keyword]
  rw [Field.tokens]
  simp only [List.append_assoc, List.cons_append]
  refine (readsAs_readNames f).stopped hnotAs hkeyword (List.cons_ne_nil _ _) ?_
  refine (readsAs_nextText f.type.keyword).seq ?_
  exact IsPart.reads <| (isPart_optionTokens f.type).bind (by decide) <|
    (isPart_accept f.sortable "SORTABLE").bind (by decide) <|
    (isPart_accept f.noIndex "NOINDEX").bind_pure _

theorem isPart_definition (given : Option IndexDefinition) :
    IsPart ["ON"] ["ON", "PREFIX", "FILTER", "LANGUAGE", "LANGUAGE_FIELD", "SCORE", "SCORE_FIELD",
        "PAYLOAD_FIELD"] (clause "ON" readDefinition)
      ((given.map IndexDefinition.tokens).getD []) (given.map IndexDefinition.words) := by
  have hkind (kind : DocumentKind) : ReadsAs [] (liftM (readKind kind.keyword)) [] kind := by
    cases kind <;> exact readsAs_pure _
  have hbody (d : IndexDefinition) : ReadsAs ["PREFIX", "FILTER", "LANGUAGE", "LANGUAGE_FIELD",
      "SCORE", "SCORE_FIELD", "PAYLOAD_FIELD"] readDefinition
      (↑d.on.keyword :: (listed "PREFIX" d.prefixes ++
        (keyed "FILTER" (d.filter.map .ofString) ++
        (keyed "LANGUAGE" (d.language.map .ofString) ++
        (keyed "LANGUAGE_FIELD" (d.languageField.map .ofString) ++
        (keyed "SCORE" (d.score.map fun x => .ofString x.canonical) ++
        (keyed "SCORE_FIELD" (d.scoreField.map .ofString) ++
        keyed "PAYLOAD_FIELD" (d.payloadField.map .ofString)))))))) d.words :=
    (readsAs_nextText d.on.keyword).seq <| (hkind d.on).seq <|
      ((isPart_textList "PREFIX" d.prefixes).bind (by decide) <|
        (isPart_keyedText "FILTER" d.filter).bind (by decide) <|
        (isPart_keyedText "LANGUAGE" d.language).bind (by decide) <|
        (isPart_keyedText "LANGUAGE_FIELD" d.languageField).bind (by decide) <|
        (isPart_keyed (fun x => readsAs_nextText (Binary64.canonical x)) "SCORE" d.score).bind
          (by decide) <|
        (isPart_keyedText "SCORE_FIELD" d.scoreField).bind (by decide) <|
        (isPart_keyedText "PAYLOAD_FIELD" d.payloadField).bind_pure _).reads
  have hpart := isPart_clause hbody "ON" given
  cases given with
  | none => exact hpart
  | some d => simpa [IndexDefinition.tokens] using hpart

theorem isPart_options (o : IndexOptions) :
    IsPart ["NOOFFSETS", "TEMPORARY", "NOFIELDS", "NOFREQS", "STOPWORDS"]
      ["NOOFFSETS", "TEMPORARY", "NOFIELDS", "NOFREQS", "STOPWORDS"] readOptions o.tokens o := by
  have hstopwords := isPart_clause readsAs_countedTexts "STOPWORDS" o.stopwords
  rw [Option.map_id'] at hstopwords
  have hparts : IsPart ["NOOFFSETS", "TEMPORARY", "NOFIELDS", "NOFREQS", "STOPWORDS"]
      ["NOOFFSETS", "TEMPORARY", "NOFIELDS", "NOFREQS", "STOPWORDS"] readOptions
      (flag o.noOffsets "NOOFFSETS" ++ (keyed "TEMPORARY" (o.temporary.map .ofNat) ++
        (flag o.noFields "NOFIELDS" ++ (flag o.noFreqs "NOFREQS" ++
        (o.stopwords.map fun words => ↑"STOPWORDS" :: counted words).getD [])))) o :=
    (isPart_accept o.noOffsets "NOOFFSETS").bind (by decide) <|
    (isPart_keyedNat "TEMPORARY" o.temporary).bind (by decide) <|
    (isPart_accept o.noFields "NOFIELDS").bind (by decide) <|
    (isPart_accept o.noFreqs "NOFREQS").bind (by decide) <|
    hstopwords.bind_pure _
  rw [IndexOptions.tokens]
  simp only [List.append_assoc]
  cases h : o.stopwords <;> rwa [h] at hparts

/-- No count says how many fields there are, so one ends where the name of the next begins. -/
theorem items_readField {fields : List Field}
    (h : ∀ f ∈ fields, f.path.getD f.name ∉ fieldOptions) :
    items (unlessDone readField) (fields.flatMap Field.tokens) =
      some (fields.map Field.words, []) := by
  have hnames (f : Field) : ∃ more, f.tokens = ↑(f.path.getD f.name) :: more := by
    rw [Field.tokens]
    cases f.path <;> exact ⟨_, rfl⟩
  have hne (f : Field) : f.tokens ≠ [] := by
    obtain ⟨more, hmore⟩ := hnames f
    rw [hmore]
    exact List.cons_ne_nil _ _
  rw [← List.append_nil (fields.flatMap Field.tokens)]
  refine items_eq (fun f _ => readsAs_unlessDone (readsAs_readField f) (hne f)) (fun f _ => hne f)
    ?_ (fun _ _ => avoids_nil fieldOptions) rfl
  intro f _ g hg more
  obtain ⟨tail, htail⟩ := hnames g
  rw [htail]
  exact avoids_cons (h g hg) _

end CreateCommand

namespace Schema

def command (s : Schema) (index : String) (definition : Option IndexDefinition)
    (options : IndexOptions) : CreateCommand where
  index
  definition := definition.map IndexDefinition.words
  options
  fields := s.fields.map Field.words

open CreateCommand

/-- No field begins with a word that may stand at the end of the field before it. -/
def NamesNoOption (s : Schema) : Prop := ∀ f ∈ s.fields, f.path.getD f.name ∉ fieldOptions

theorem whole_reader {s : Schema} (h : s.NamesNoOption) (index : String)
    (definition : Option IndexDefinition) (options : IndexOptions) :
    whole reader (↑index :: (definition.map IndexDefinition.tokens).getD [] ++ options.tokens ++
      ↑"SCHEMA" :: s.fields.flatMap Field.tokens) = some (s.command index definition options) := by
  have hdefinition := isPart_definition definition
  have hoptions := isPart_options options
  have hread : reader (↑index :: (definition.map IndexDefinition.tokens).getD [] ++
      options.tokens ++ ↑"SCHEMA" :: s.fields.flatMap Field.tokens) =
      some (s.command index definition options, []) := by
    rw [List.append_assoc, List.cons_append]
    refine ((readsAs_nextText index).bind_apply _ (avoids_no_keyword _)).trans ?_
    refine (hdefinition.reads.bind_apply _
      (hoptions.opens.avoids_append (by decide) (avoids_cons (by decide) _))).trans ?_
    refine (hoptions.reads.bind_apply _ (avoids_cons (by decide) _)).trans ?_
    refine ((readsAs_expect "SCHEMA").bind_apply _ (avoids_no_keyword _)).trans ?_
    exact bind_eq (items_readField h)
  rw [whole, hread]

/-- An index is refused for want of a field and for nothing else. Its tokens are read to the last
one and say the whole request, whatever the texts among them, unless a field begins with a word
that may stand in the field before it. -/
theorem read_createTokens (s : Schema) (index : String) (definition : Option IndexDefinition)
    (options : IndexOptions) :
    (∀ e, s.createTokens index definition options = .error e ↔
      s.fields = [] ∧ e = InvalidArgument.noSchemaFields) ∧
    (s.fields ≠ [] → ∃ ts, s.createTokens index definition options = .ok ts ∧
      (s.NamesNoOption → CreateCommand.read ts = some (s.command index definition options))) := by
  rw [createTokens]
  cases hfields : s.fields with
  | nil => exact ⟨fun e => by simp [eq_comm], fun h => absurd rfl h⟩
  | cons f fields =>
      refine ⟨fun e => by simp, fun _ => ⟨_, rfl, fun h => ?_⟩⟩
      rw [← hfields]
      exact whole_reader h index definition options

def keywordNames : Schema where
  fields := [{ name := "SORTABLE", path := some "AS", type := .text .one false none },
    { name := "SCHEMA", type := .tag (some "NOINDEX"), noIndex := true },
    { name := "AS", type := .numeric, sortable := true }]

theorem read_createTokens_keywordNames :
    keywordNames.fields ≠ [] ∧ keywordNames.NamesNoOption ∧
    (∃ ts, keywordNames.createTokens "ON" (some { filter := some "SCHEMA" })
        { stopwords := some [] } = .ok ts ∧
      CreateCommand.read ts = some (keywordNames.command "ON" (some { filter := some "SCHEMA" })
        { stopwords := some [] })) := by
  have hfields : keywordNames.fields ≠ [] := List.cons_ne_nil _ _
  have hnames : keywordNames.NamesNoOption := by simp [NamesNoOption, keywordNames, fieldOptions]
  obtain ⟨ts, htokens, hread⟩ := (read_createTokens keywordNames "ON"
    (some { filter := some "SCHEMA" }) { stopwords := some [] }).2 hfields
  exact ⟨hfields, hnames, ts, htokens, hread hnames⟩

/-- A field that is named as an option reads as one of the field before it. -/
example :
    createTokens ⟨[.text "title", .numeric "PHONETIC"]⟩ "i" none {} =
      createTokens ⟨[{ name := "title", type := .text .one false (some "NUMERIC") }]⟩ "i" none {} :=
  rfl

end Schema

end FullText
