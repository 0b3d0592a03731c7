import FullText.Error
import FullText.Token

namespace FullText

open Tokens

structure Suggestion where
  text : String
  score : Binary64
  payload : Option String
deriving DecidableEq

namespace Suggestion

structure Draft where
  text : Option String := none
  score : Binary64 := .one
  payload : Option String := none
deriving DecidableEq

inductive Setting
  | text (text : String)
  | score (score : Binary64)
  | payload (payload : String)
deriving DecidableEq

def Draft.set (d : Draft) : Setting → Draft
  | .text text => { d with text := some text }
  | .score score => { d with score }
  | .payload payload => { d with payload := some payload }

/-- A suggestion has a text that is not empty and a score between zero and one. -/
def Draft.build (d : Draft) : Except Error Suggestion :=
  match d.text.filter (· ≠ "") with
  | none => .error InvalidArgument.noSuggestionString
  | some text =>
    if Binary64.zero.le d.score && d.score.le .one then
      .ok { text, score := d.score, payload := d.payload }
    else .error (InvalidArgument.suggestionScore d.score)

def addTokens (s : Suggestion) (key : String) (increment : Bool) : Tokens :=
  ↑key :: ↑s.text :: ↑s.score.canonical :: flag increment "INCR" ++
    keyed "PAYLOAD" (s.payload.map .ofString)

end Suggestion

end FullText
