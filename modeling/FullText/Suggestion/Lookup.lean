import FullText.Reply.Cursor
import FullText.Suggestion.Basic

namespace FullText

open Tokens Reading

structure Lookup where
  fuzzy : Bool := false
  max : Nat := 5
  scores : Bool := false
  payloads : Bool := false
deriving DecidableEq

namespace Lookup

def stride (l : Lookup) : Nat := 1 + l.scores.toNat + l.payloads.toNat

def tokens (l : Lookup) (key start : String) : Tokens :=
  ↑key :: ↑start :: flag l.fuzzy "FUZZY" ++
    keyed "MAX" (some (.ofNat l.max)) ++
    flag l.scores "WITHSCORES" ++ flag l.payloads "WITHPAYLOADS"

/-- A score is what the server keeps, and may be above one. -/
def readSuggestion (l : Lookup) : Reading Suggestion := do
  let text ← nextAs Reply.asText
  let score ← if l.scores then nextAs Reply.asNumber else pure .one
  let payload ← if l.payloads then nextAs (Reply.orNil Reply.asText) else pure none
  return { text, score, payload }

def read (l : Lookup) : Reply → Except Error (List Suggestion)
  | .nil => .ok []
  | r => do
    run (do records l.readSuggestion (← expectStride l.stride)) (← r.asList)

end Lookup

end FullText
