import FullText.Query.Tree
import FullText.Search.Filter
import FullText.Search.Shape
import FullText.Search.SortOrder

namespace FullText

open Tokens

structure ReturnField where
  name : String
  asName : Option String
deriving DecidableEq

structure Highlight where
  fields : List String := []
  tags : Option (String × String) := none
deriving DecidableEq

structure Summary where
  fields : List String := []
  fragments : Option Nat := none
  length : Option Nat := none
  separator : Option String := none
deriving DecidableEq

def defaultOffset : Nat := 0

def defaultCount : Nat := 10

structure Query where
  text : String
  offset : Nat := defaultOffset
  count : Nat := defaultCount
  verbatim : Bool := false
  noContent : Bool := false
  noStopwords : Bool := false
  withScores : Bool := false
  withPayloads : Bool := false
  language : Option String := none
  scorer : Option String := none
  inFields : List String := []
  inKeys : List String := []
  returnFields : List ReturnField := []
  sortBy : Option SortedField := none
  payload : Option Token := none
  highlight : Option Highlight := none
  summary : Option Summary := none
  filters : List Filter := []
deriving DecidableEq

def ReturnField.tokens (f : ReturnField) : Tokens := ↑f.name :: keyed "AS" (f.asName.map .ofString)

def Highlight.tokens (h : Highlight) : Tokens :=
  ↑"HIGHLIGHT" :: listed "FIELDS" h.fields ++
    match h.tags with
    | none => []
    | some (opening, closing) => ["TAGS", opening, closing]

def Summary.tokens (s : Summary) : Tokens :=
  ↑"SUMMARIZE" :: listed "FIELDS" s.fields ++
    keyed "FRAGS" (s.fragments.map .ofNat) ++
    keyed "LEN" (s.length.map .ofNat) ++
    keyed "SEPARATOR" (s.separator.map .ofString)

namespace Query

def ofNode (n : Node) : Query := { text := n.text }

inductive Setting
  | limit (offset count : Nat)
  | verbatim
  | noContent
  | noStopwords
  | withScores
  | withPayloads
  | language (name : String)
  | scorer (name : String)
  | inFields (fields : List String)
  | inKeys (keys : List String)
  | returnFields (fields : List String)
  | returnFieldAs (field asName : String)
  | sortBy (field : String) (order : SortOrder)
  | payload (content : Token)
  | highlight (options : Highlight)
  | summary (options : Summary)
  | filter (filter : Filter)
deriving DecidableEq

/-- Return fields and filters gather up; any other setting takes the place of an earlier one. -/
def set (q : Query) : Setting → Query
  | .limit offset count => { q with offset, count }
  | .verbatim => { q with verbatim := true }
  | .noContent => { q with noContent := true }
  | .noStopwords => { q with noStopwords := true }
  | .withScores => { q with withScores := true }
  | .withPayloads => { q with withPayloads := true }
  | .language name => { q with language := some name }
  | .scorer name => { q with scorer := some name }
  | .inFields fields => { q with inFields := fields }
  | .inKeys keys => { q with inKeys := keys }
  | .returnFields fields =>
    { q with returnFields := q.returnFields ++ fields.map fun name => ⟨name, none⟩ }
  | .returnFieldAs field asName =>
    { q with returnFields := q.returnFields ++ [⟨field, some asName⟩] }
  | .sortBy field order => { q with sortBy := some ⟨field, order⟩ }
  | .payload content => { q with payload := some content }
  | .highlight options => { q with highlight := some options }
  | .summary options => { q with summary := some options }
  | .filter filter => { q with filters := q.filters ++ [filter] }

def setAll (q : Query) (settings : List Setting) : Query := settings.foldl set q

def shape (q : Query) : Shape :=
  { content := !q.noContent, scores := q.withScores, payloads := q.withPayloads }

def flagTokens (q : Query) : Tokens :=
  flag q.verbatim "VERBATIM" ++ flag q.noContent "NOCONTENT" ++
    flag q.noStopwords "NOSTOPWORDS" ++ flag q.withScores "WITHSCORES" ++
    flag q.withPayloads "WITHPAYLOADS"

def sortTokens (q : Query) : Tokens :=
  match q.sortBy with
  | none => []
  | some s => ↑"SORTBY" :: s.tokens

def limitTokens (q : Query) : Tokens :=
  if q.offset = defaultOffset ∧ q.count = defaultCount then []
  else ["LIMIT", .ofNat q.offset, .ofNat q.count]

/-- The return fields after the number of their tokens, three for one that is renamed. -/
def returnTokens (q : Query) : Tokens :=
  if q.returnFields.isEmpty then []
  else
    let fields := q.returnFields.flatMap ReturnField.tokens
    "RETURN" :: .ofNat fields.length :: fields

def tokens (q : Query) : Tokens :=
  ↑q.text :: q.flagTokens ++
    keyed "LANGUAGE" (q.language.map .ofString) ++
    keyed "SCORER" (q.scorer.map .ofString) ++
    listed "INFIELDS" q.inFields ++
    q.sortTokens ++
    keyed "PAYLOAD" q.payload ++
    q.limitTokens ++
    q.filters.flatMap Filter.tokens ++
    (q.highlight.map Highlight.tokens).getD [] ++
    (q.summary.map Summary.tokens).getD [] ++
    listed "INKEYS" q.inKeys ++
    q.returnTokens

end Query

end FullText
