import FullText.Proofs.Token.Reader
import FullText.Search.Query

namespace FullText

open Tokens Tokens.Reader

inductive FilterWords
  | numeric (property lower upper : String)
  | geo (property lon lat radius : String) (unit : GeoUnit)
deriving DecidableEq

/-- What the tokens of a search say, the window being the offset and the count. -/
structure SearchCommand where
  text : String
  verbatim : Bool
  noContent : Bool
  noStopwords : Bool
  withScores : Bool
  withPayloads : Bool
  language : Option String
  scorer : Option String
  inFields : List String
  sortBy : Option SortedField
  payload : Option Token
  window : Nat × Nat
  filters : List FilterWords
  highlight : Option Highlight
  summary : Option Summary
  inKeys : List String
  returned : List String
deriving DecidableEq

namespace SearchCommand

def readUnit : String → Option GeoUnit
  | "km" => some .kilometers
  | "m" => some .meters
  | "ft" => some .feet
  | "mi" => some .miles
  | _ => none

def readNumeric : Reader FilterWords := do
  return .numeric (← nextText) (← nextText) (← nextText)

def nextUnit : Reader GeoUnit := do readUnit (← nextText)

def readGeo : Reader FilterWords := do
  return .geo (← nextText) (← nextText) (← nextText) (← nextText) (← nextUnit)

def readFilter : Reader (Option FilterWords) :=
  either (clause "FILTER" readNumeric) (clause "GEOFILTER" readGeo)

def readPair : Reader (Nat × Nat) := do return (← nextNat, ← nextNat)

def readWindow : Reader (Nat × Nat) := do
  return (← clause "LIMIT" readPair).getD (0, 10)

def readHighlight : Reader Highlight := do
  return {
    fields := ← textList "FIELDS"
    tags := ← clause "TAGS" (do return (← nextText, ← nextText)) }

def readSummary : Reader Summary := do
  return {
    fields := ← textList "FIELDS"
    fragments := ← clause "FRAGS" nextNat
    length := ← clause "LEN" nextNat
    separator := ← clause "SEPARATOR" nextText }

def reader : Reader SearchCommand := do
  return {
    text := ← nextText
    verbatim := ← accept "VERBATIM"
    noContent := ← accept "NOCONTENT"
    noStopwords := ← accept "NOSTOPWORDS"
    withScores := ← accept "WITHSCORES"
    withPayloads := ← accept "WITHPAYLOADS"
    language := ← clause "LANGUAGE" nextText
    scorer := ← clause "SCORER" nextText
    inFields := ← textList "INFIELDS"
    sortBy := ← clause "SORTBY" sortedField
    payload := ← clause "PAYLOAD" nextToken
    window := ← readWindow
    filters := ← items readFilter
    highlight := ← clause "HIGHLIGHT" readHighlight
    summary := ← clause "SUMMARIZE" readSummary
    inKeys := ← textList "INKEYS"
    returned := ← textList "RETURN" }

theorem readsAs_nextUnit (unit : GeoUnit) : ReadsAs [] nextUnit [unit.name] unit := by
  refine (readsAs_nextText unit.name).seq ?_
  cases unit <;> exact readsAs_pure _

end SearchCommand

/-- The filter in words, in which exclusive infinities are lost. -/
def Filter.words : Filter → FilterWords
  | numeric property i => .numeric property (i.lower.text "+inf") (i.upper.text "+inf")
  | geo property a => .geo property a.lon.canonical a.lat.canonical a.radius.canonical a.unit

def ReturnField.words (f : ReturnField) : List String :=
  f.name :: f.asName.elim [] fun asName => ["AS", asName]

/-- Fields among which each "AS" that a field may have before it stands before an alias. -/
def ReturnField.ofWords : List String → List ReturnField
  | name :: keyword :: asName :: rest =>
    if keyword = "AS" then ⟨name, some asName⟩ :: ofWords rest
    else ⟨name, none⟩ :: ofWords (keyword :: asName :: rest)
  | names => names.map (⟨·, none⟩)

namespace Query

def command (q : Query) : SearchCommand where
  text := q.text
  verbatim := q.verbatim
  noContent := q.noContent
  noStopwords := q.noStopwords
  withScores := q.withScores
  withPayloads := q.withPayloads
  language := q.language
  scorer := q.scorer
  inFields := q.inFields
  sortBy := q.sortBy
  payload := q.payload
  window := (q.offset, q.count)
  filters := q.filters.map Filter.words
  highlight := q.highlight
  summary := q.summary
  inKeys := q.inKeys
  returned := q.returnFields.flatMap ReturnField.words

end Query

namespace SearchCommand

theorem isItem_readFilter (f : Filter) :
    IsItem ["FILTER", "GEOFILTER"] [] readFilter f.tokens f.words := by
  cases f with
  | numeric property i =>
      have hbody : ReadsAs [] readNumeric [property, i.lower.text "+inf", i.upper.text "+inf"]
          (.numeric property (i.lower.text "+inf") (i.upper.text "+inf")) :=
        (readsAs_nextText _).seq <| (readsAs_nextText _).seq <| (readsAs_nextText _).bind_pure _
      exact (isItem_clause hbody "FILTER").either_left _ ["GEOFILTER"]
  | geo property a =>
      have hbody : ReadsAs [] readGeo (↑property :: a.words.map Token.ofString)
          (.geo property a.lon.canonical a.lat.canonical a.radius.canonical a.unit) :=
        (readsAs_nextText _).seq <| (readsAs_nextText _).seq <| (readsAs_nextText _).seq <|
          (readsAs_nextText _).seq <| (readsAs_nextUnit _).bind_pure _
      exact (isItem_clause hbody "GEOFILTER").either_right
        (fun _ => clause_of_avoids readNumeric) (by decide)

theorem isPart_filters (fs : List Filter) :
    IsPart ["FILTER", "GEOFILTER"] ["FILTER", "GEOFILTER"] (items readFilter)
      (fs.flatMap Filter.tokens) (fs.map Filter.words) := by
  have hend (ts : Tokens) (h : Avoids ["FILTER", "GEOFILTER"] ts) :
      readFilter ts = some (none, ts) := by
    have hfilter : Avoids ["FILTER"] ts := h.mono (by simp)
    have hgeo : Avoids ["GEOFILTER"] ts := h.mono (by simp)
    exact (either_of_none (clause_of_avoids _ hfilter)).trans (clause_of_avoids _ hgeo)
  refine (isPart_items isItem_readFilter (by simp) hend fs).mono (List.Subset.refl _) ?_
  cases fs.getLast? <;> simp

theorem isPart_sortTokens (q : Query) :
    IsPart ["SORTBY"] ["SORTBY"] (clause "SORTBY" sortedField) q.sortTokens q.sortBy := by
  have hpart := isPart_clause readsAs_sortedField "SORTBY" q.sortBy
  rw [Option.map_id'] at hpart
  rw [Query.sortTokens]
  cases h : q.sortBy <;> rwa [h] at hpart

theorem isPart_limitTokens (q : Query) :
    IsPart ["LIMIT"] ["LIMIT"] readWindow q.limitTokens (q.offset, q.count) := by
  have hbody (w : Nat × Nat) : ReadsAs [] readPair [.ofNat w.1, .ofNat w.2] w :=
    (readsAs_nextNat w.1).seq ((readsAs_nextNat w.2).bind_pure _)
  have hpart (given : Option (Nat × Nat)) :=
    (isPart_clause hbody "LIMIT" given).bind_pure (Option.getD · (defaultOffset, defaultCount))
  rw [Query.limitTokens]
  split
  next h =>
    rw [h.1, h.2]
    exact hpart none
  next h => exact hpart (some (q.offset, q.count))

theorem readsAs_readHighlight (h : Highlight) : ReadsAs ["FIELDS", "TAGS"] readHighlight
    (listed "FIELDS" h.fields ++
      (h.tags.map fun t => (["TAGS", t.1, t.2] : Tokens)).getD []) h := by
  have htag (t : String × String) :
      ReadsAs [] (do return (← nextText, ← nextText)) [↑t.1, ↑t.2] t :=
    (readsAs_nextText t.1).seq ((readsAs_nextText t.2).bind_pure _)
  have htags := isPart_clause htag "TAGS" h.tags
  rw [Option.map_id'] at htags
  exact ((isPart_textList "FIELDS" h.fields).bind (by decide) (htags.bind_pure _)).reads

theorem isPart_highlight (given : Option Highlight) :
    IsPart ["HIGHLIGHT"] ["HIGHLIGHT", "FIELDS", "TAGS"] (clause "HIGHLIGHT" readHighlight)
      ((given.map Highlight.tokens).getD []) given := by
  have hpart := isPart_clause readsAs_readHighlight "HIGHLIGHT" given
  cases given with
  | none => exact hpart
  | some h =>
    obtain ⟨fields, tags⟩ := h
    cases tags <;> exact hpart

theorem isPart_summary (given : Option Summary) :
    IsPart ["SUMMARIZE"] ["SUMMARIZE", "FIELDS", "FRAGS", "LEN", "SEPARATOR"]
      (clause "SUMMARIZE" readSummary) ((given.map Summary.tokens).getD []) given := by
  have hbody (s : Summary) : ReadsAs ["FIELDS", "FRAGS", "LEN", "SEPARATOR"] readSummary
      (listed "FIELDS" s.fields ++ (keyed "FRAGS" (s.fragments.map .ofNat) ++
        (keyed "LEN" (s.length.map .ofNat) ++ keyed "SEPARATOR" (s.separator.map .ofString))))
      s :=
    ((isPart_textList "FIELDS" s.fields).bind (by decide) <|
      (isPart_keyedNat "FRAGS" s.fragments).bind (by decide) <|
      (isPart_keyedNat "LEN" s.length).bind (by decide) <|
      (isPart_keyedText "SEPARATOR" s.separator).bind_pure _).reads
  have hpart := isPart_clause hbody "SUMMARIZE" given
  cases given with
  | none => exact hpart
  | some s => simpa [Summary.tokens] using hpart

theorem flatMap_returnTokens (fields : List ReturnField) :
    fields.flatMap ReturnField.tokens =
      (fields.flatMap ReturnField.words).map Token.ofString := by
  rw [List.map_flatMap]
  refine List.flatMap_congr fun f _ => ?_
  obtain ⟨name, asName⟩ := f
  cases asName <;> rfl

theorem returnTokens_eq (q : Query) :
    q.returnTokens = listed "RETURN" (q.returnFields.flatMap ReturnField.words) := by
  simp only [Query.returnTokens, listed, counted, flatMap_returnTokens, List.length_map]
  cases q.returnFields <;> rfl

theorem whole_reader (q : Query) : whole reader q.tokens = some q.command := by
  rw [Query.tokens, Query.flagTokens, returnTokens_eq]
  simp only [List.append_assoc, List.cons_append]
  exact ReadsAs.whole_eq <|
    (readsAs_nextText q.text).part (by decide) <|
    (isPart_accept q.verbatim "VERBATIM").bind (by decide) <|
    (isPart_accept q.noContent "NOCONTENT").bind (by decide) <|
    (isPart_accept q.noStopwords "NOSTOPWORDS").bind (by decide) <|
    (isPart_accept q.withScores "WITHSCORES").bind (by decide) <|
    (isPart_accept q.withPayloads "WITHPAYLOADS").bind (by decide) <|
    (isPart_keyedText "LANGUAGE" q.language).bind (by decide) <|
    (isPart_keyedText "SCORER" q.scorer).bind (by decide) <|
    (isPart_textList "INFIELDS" q.inFields).bind (by decide) <|
    (isPart_sortTokens q).bind (by decide) <|
    (isPart_keyedToken "PAYLOAD" q.payload).bind (by decide) <|
    (isPart_limitTokens q).bind (by decide) <|
    (isPart_filters q.filters).bind (by decide) <|
    (isPart_highlight q.highlight).bind (by decide) <|
    (isPart_summary q.summary).bind (by decide) <|
    (isPart_textList "INKEYS" q.inKeys).bind (by decide) <|
    (isPart_textList "RETURN" _).bind_pure _

def read (ts : Tokens) : Option SearchCommand := whole reader ts

def returnFields (c : SearchCommand) : List ReturnField := ReturnField.ofWords c.returned

end SearchCommand

namespace ReturnField

theorem ofWords_cons (name : String) {rest : List String} (h : ∀ word ∈ rest.head?, word ≠ "AS") :
    ofWords (name :: rest) = ⟨name, none⟩ :: ofWords rest := by
  match rest with
  | [] | [_] => rfl
  | keyword :: _ :: _ => exact if_neg (h keyword rfl)

theorem ofWords_flatMap {fields : List ReturnField} (h : ∀ f ∈ fields, f.name ≠ "AS") :
    ofWords (fields.flatMap words) = fields := by
  induction fields with
  | nil => rfl
  | cons f fields ih =>
      rw [List.forall_mem_cons] at h
      have htail := ih h.2
      obtain ⟨name, asName⟩ := f
      cases asName with
      | some asName => exact (if_pos rfl).trans (congrArg _ htail)
      | none =>
          have hhead : ∀ word ∈ (fields.flatMap words).head?, word ≠ "AS" := by
            cases fields with
            | nil => exact fun _ hword => nomatch hword
            | cons g fields =>
                intro word hword
                cases hword
                exact h.2 g List.mem_cons_self
          exact (ofWords_cons name hhead).trans (congrArg _ htail)

end ReturnField

namespace Query

def NamesNoAs (q : Query) : Prop := ∀ f ∈ q.returnFields, f.name ≠ "AS"

theorem returnFields_command {q : Query} (h : q.NamesNoAs) :
    q.command.returnFields = q.returnFields :=
  ReturnField.ofWords_flatMap h

/-- The tokens of a query are read to the last one and say all of its settings, whatever the texts
among them. So queries of the same tokens have the same settings, up to the wording of their
filters. Only a return field that is named as the keyword before an alias is an exception. -/
theorem read_tokens_eq_command (q : Query) :
    SearchCommand.read q.tokens = some q.command ∧
      (q.NamesNoAs → q.command.returnFields = q.returnFields ∧
        ∀ p : Query, p.NamesNoAs → p.tokens = q.tokens →
          { p with filters := [] } = { q with filters := [] } ∧
            p.filters.map Filter.words = q.filters.map Filter.words) := by
  refine ⟨SearchCommand.whole_reader q, fun hq => ⟨returnFields_command hq, ?_⟩⟩
  intro p hp htokens
  have hcommand : p.command = q.command := by
    have hread := SearchCommand.whole_reader p
    rw [htokens, SearchCommand.whole_reader q] at hread
    exact (Option.some.inj hread).symm
  have hreturned : p.returnFields = q.returnFields := by
    rw [← returnFields_command hp, hcommand, returnFields_command hq]
  refine ⟨?_, congrArg SearchCommand.filters hcommand⟩
  simp only [command, SearchCommand.mk.injEq, Prod.mk.injEq] at hcommand
  simp only [hcommand, hreturned]

def unbounded (exclusive : Bool) : Query :=
  setAll { text := "LIMIT" } [.language "SCORER", .payload "RETURN", .returnFieldAs "FIELDS" "AS",
    .filter (.numeric "SORTBY" ⟨⟨.infinity true, exclusive⟩, ⟨.infinity false, false⟩⟩)]

/-- That the bound of no value is exclusive does not show in the tokens. -/
theorem read_tokens_unbounded :
    (unbounded true).NamesNoAs ∧ (unbounded false).NamesNoAs ∧
      (unbounded true).tokens = (unbounded false).tokens ∧ unbounded true ≠ unbounded false ∧
      SearchCommand.read (unbounded false).tokens = some (unbounded false).command ∧
      (unbounded false).command.returnFields = [⟨"FIELDS", some "AS"⟩] ∧
      { unbounded true with filters := [] } = { unbounded false with filters := [] } ∧
      (unbounded true).filters.map Filter.words = (unbounded false).filters.map Filter.words := by
  have htrue : (unbounded true).NamesNoAs := by simp [NamesNoAs, unbounded, setAll, set]
  have hfalse : (unbounded false).NamesNoAs := by simp [NamesNoAs, unbounded, setAll, set]
  have htokens : (unbounded true).tokens = (unbounded false).tokens := by decide
  obtain ⟨hread, hsettings⟩ := read_tokens_eq_command (unbounded false)
  obtain ⟨hreturned, hsame⟩ := hsettings hfalse
  exact ⟨htrue, hfalse, htokens, by decide, hread, hreturned, hsame _ htrue htokens⟩

end Query

end FullText
