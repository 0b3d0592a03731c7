import FullText.Aggregation.Request
import FullText.Aggregation.Result
import FullText.Client.Session
import FullText.Client.Settings
import FullText.Index.Info
import FullText.Index.Schema
import FullText.Search.Query
import FullText.Search.Result
import FullText.Suggestion.Lookup

namespace FullText

open Tokens

inductive Operation
  | createIndex (schema : Schema) (definition : Option IndexDefinition) (options : IndexOptions)
  | dropIndex (deleteDocuments : Bool)
  | info
  | search (query : Query)
  | explain (query : Query)
  | aggregate (request : Aggregation)
  | readCursor (id : Nat) (count : Option Nat)
  | deleteCursor (id : Nat)
  | addSuggestion (key : String) (suggestion : Suggestion) (increment : Bool)
  | suggestions (key start : String) (lookup : Lookup)
  | deleteSuggestion (key text : String)
  | suggestionCount (key : String)
  | addAlias (name : String)
  | updateAlias (name : String)
  | deleteAlias (name : String)
  | setOption (name value : String)
  | options (name : String)

inductive Answer
  | done
  | info (entries : Table Reply)
  | documents (result : SearchResult)
  | text (text : String)
  | rows (page : RowPage)
  | count (n : Int64)
  | suggestions (found : List Suggestion)
  | present (b : Bool)
  | options (entries : Table (Option String))

def Answer.resultCount? : Answer → Option Nat
  | documents result => some result.documents.length
  | rows page => some page.rows.length
  | suggestions found => some found.length
  | _ => none

def Operation.command : Operation → String
  | createIndex .. => "FT.CREATE"
  | dropIndex _ => "FT.DROPINDEX"
  | info => "FT.INFO"
  | search _ => "FT.SEARCH"
  | explain _ => "FT.EXPLAIN"
  | aggregate _ => "FT.AGGREGATE"
  | readCursor .. | deleteCursor _ => "FT.CURSOR"
  | addSuggestion .. => "FT.SUGADD"
  | suggestions .. => "FT.SUGGET"
  | deleteSuggestion .. => "FT.SUGDEL"
  | suggestionCount _ => "FT.SUGLEN"
  | addAlias _ => "FT.ALIASADD"
  | updateAlias _ => "FT.ALIASUPDATE"
  | deleteAlias _ => "FT.ALIASDEL"
  | setOption .. | options _ => "FT.CONFIG"

structure Client where
  index : String
  decodeContent : Bool := true
  pageCount : Nat := 0
deriving DecidableEq

namespace Client

def ofSettings (s : Settings) : Client :=
  { index := s.index, decodeContent := s.decodeContent, pageCount := s.pageCount }

def request (c : Client) : Operation → Except Error Tokens
  | .createIndex schema definition options => schema.createTokens c.index definition options
  | .dropIndex deleteDocuments => .ok (↑c.index :: flag deleteDocuments "DD")
  | .info => .ok [↑c.index]
  | .search query | .explain query => .ok (↑c.index :: query.tokens)
  | .aggregate request => .ok (↑c.index :: request.tokens)
  | .readCursor id count =>
    let count := count.getD c.pageCount
    .ok (↑"READ" :: ↑c.index :: .ofNat id ::
      keyed "COUNT" (if count = 0 then none else some (.ofNat count)))
  | .deleteCursor id => .ok ["DEL", c.index, .ofNat id]
  | .addSuggestion key suggestion increment => .ok (suggestion.addTokens key increment)
  | .suggestions key start lookup => .ok (lookup.tokens key start)
  | .deleteSuggestion key text => .ok [key, text]
  | .suggestionCount key => .ok [↑key]
  | .addAlias name | .updateAlias name => .ok [name, c.index]
  | .deleteAlias name => .ok [↑name]
  | .setOption name value => .ok ["SET", name, value]
  | .options name => .ok ["GET", name]

def answer (c : Client) (op : Operation) (r : Reply) : Except Error Answer :=
  match op with
  | .createIndex .. | .dropIndex _ | .deleteCursor _ | .addAlias _ | .updateAlias _
  | .deleteAlias _ | .setOption .. => (fun _ => .done) <$> r.asOkay
  | .info => .info <$> readInfo r
  | .search query => .documents <$> SearchResult.read query.shape c.decodeContent r
  | .explain _ => .text <$> r.asText
  | .aggregate request => .rows <$> RowPage.read request.paging.isSome r
  | .readCursor .. => .rows <$> RowPage.read true r
  | .addSuggestion .. | .suggestionCount _ => .count <$> r.asInt
  | .suggestions _ _ lookup => .suggestions <$> lookup.read r
  | .deleteSuggestion .. => (fun n => .present (n = 1)) <$> r.asInt
  | .options _ => .options <$> readOptions r

def run (c : Client) (op : Operation) (s : Session) : Except Error Answer × Session :=
  match c.request op with
  | .error e => (.error e, s)
  | .ok args =>
    let (reply, s) := (s.log (.dispatching c.index op.command args.length)).exchange op.command args
    match reply with
    | .error e =>
      (.error e, (s.measure [.outcome op.command .error, .latency op.command]).log
        (.failed c.index op.command e))
    | .ok r =>
      let s := s.measure [.outcome op.command .success, .latency op.command]
      match c.answer op r with
      | .error e =>
        (.error e, (s.measure [.outcome op.command .decodeError]).log
          (.refused c.index op.command e))
      | .ok a => (.ok a, s.measure (a.resultCount?.toList.map (.results op.command)))

end Client

end FullText
