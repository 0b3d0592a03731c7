import FullText.Reply.Cursor
import FullText.Search.Shape
import FullText.Table

namespace FullText

/-- The value of a property, as text where it was asked for as text and is UTF-8. -/
inductive Property
  | text (text : String)
  | bytes (bytes : ByteArray)

namespace Property

def ofBytes (asText : Bool) (bytes : ByteArray) : Property :=
  if asText then (String.fromUTF8? bytes).elim (.bytes bytes) .text else .bytes bytes

def text? : Property → Option String
  | text s => some s
  | bytes b => String.fromUTF8? b

def toBytes : Property → ByteArray
  | text s => s.toUTF8
  | bytes b => b

end Property

/-- A score of one stands for one that was not asked for. -/
structure Document where
  id : String
  score : Binary64
  payload : Option ByteArray
  properties : Table Property

namespace Document

def get? (d : Document) (name : String) : Option Property := d.properties.get? name

def text? (d : Document) (name : String) : Option String := (d.get? name).bind Property.text?

end Document

structure SearchResult where
  total : Nat
  documents : List Document

namespace SearchResult

def readProperty (asText : Bool) (pair : Reply × Reply) : Except Error (String × Property) := do
  let name ← pair.1.asText
  let value ← Reply.orNil Reply.asBytes pair.2
  return (name, .ofBytes asText (value.getD .empty))

def readProperties (asText : Bool) : Reply → Except Error (Table Property)
  | .nil => .ok ∅
  | r => do
    let pairs ← r.asPairs Mismatch.oddProperties
    return .ofList (← pairs.mapM (readProperty asText))

open Reading in
def readDocument (s : Shape) (asText : Bool) : Reading Document := do
  let id ← nextAs Reply.asText
  let score ← if s.scores then nextAs Reply.asNumber else pure .one
  let payload ← if s.laysPayloads then nextAs (Reply.orNil Reply.asBytes) else pure none
  let properties ← if s.content then nextAs (readProperties asText) else pure ∅
  return { id, score, payload, properties }

open Reading in
def read (s : Shape) (asText : Bool) (r : Reply) : Except Error SearchResult := do
  run (do
    let total ← nextAs Reply.asTotal
    let documents ← records (readDocument s asText) (← expectStride s.stride)
    return { total, documents }) (← r.asList)

end SearchResult

end FullText
