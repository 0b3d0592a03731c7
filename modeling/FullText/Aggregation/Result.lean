import FullText.Reply.Cursor
import FullText.Table

namespace FullText

open Reading

structure Row where
  fields : Table Reply

namespace Row

/-- The value under a name, as `read` has it. Without a value it is `default`. -/
def getAs (read : Reply → Except Error α) (default : α) (r : Row) (name : String) :
    Except Error α :=
  match r.fields.get? name with
  | none | some .nil => .ok default
  | some value => read value

def text : Row → String → Except Error String := getAs Reply.asText ""

def int : Row → String → Except Error Int64 := getAs Reply.asInt 0

def number (r : Row) (name : String) : Except Error Binary64 :=
  match r.fields.get? name with
  | none | some .nil => .ok .zero
  | some (.double x) => .ok x
  | some (.int n) => .ok (.ofInt n.toInt)
  | some value => do Reply.readNumber (← value.asText)

end Row

/-- The cursor is none when there are no more pages. -/
structure RowPage where
  total : Nat
  rows : List Row
  cursor : Option Nat := none

namespace RowPage

def readRow (r : Reply) : Except Error Row := do
  let pairs ← r.asPairs Mismatch.oddRow
  return ⟨.ofList (← pairs.mapM Reply.asEntry)⟩

def readRows (r : Reply) : Except Error RowPage := do
  let (total, rows) ← run (do return (← nextAs Reply.asTotal, ← remainder)) (← r.asList)
  return { total, rows := ← rows.mapM readRow }

def readCursor (r : Reply) : Except Error (Option Nat) := do
  let id ← r.asInt
  if id < 0 then .error (Mismatch.negativeCursor id)
  else .ok (if id = 0 then none else some id.toInt.toNat)

/-- Rows, then a cursor id or nothing. What follows them is not read. -/
def readPage (r : Reply) : Except Error RowPage := do
  let (page, rest) ← run (do return (← nextAs readRows, ← remainder)) (← r.asList)
  match rest.head? with
  | none => return page
  | some id => return { page with cursor := ← readCursor id }

def read (paged : Bool) (r : Reply) : Except Error RowPage :=
  if paged then readPage r else readRows r

end RowPage

end FullText
