import FullText.Reply.Cursor
import FullText.Table

namespace FullText

open Reading

def readInfo : Reply → Except Error (Table Reply)
  | .map pairs => .ofList <$> pairs.mapM Reply.asEntry
  | r => do
    run (do
      let entry : Reading (String × Reply) := do return (← nextAs Reply.asText, ← next)
      return .ofList (← records entry (← expectStride 2))) (← r.asList)

/-- A name and a value, which may be nil. What follows them is not read. -/
def readOption (r : Reply) : Except Error (String × Option String) := do
  run (do return (← nextAs Reply.asText, ← nextAs (Reply.orNil Reply.asText))) (← r.asList)

def readOptions (r : Reply) : Except Error (Table (Option String)) := do
  return .ofList (← (← r.asList).mapM readOption)

end FullText
