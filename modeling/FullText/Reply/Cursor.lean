import FullText.Reply.Coercion

namespace FullText

/-- The number of elements behind the cursor, and those before it. -/
structure Cursor where
  position : Nat
  rest : List Reply

abbrev Reading := ExceptT Error (StateM Cursor)

namespace Cursor

def start (items : List Reply) : Cursor := ⟨0, items⟩

def remaining (c : Cursor) : Nat := c.rest.length

def atEnd (c : Cursor) : Bool := c.rest.isEmpty

def peek (c : Cursor) : Option Reply := c.rest.head?

end Cursor

namespace Reading

def run (reading : Reading α) (items : List Reply) : Except Error α :=
  (reading (.start items)).1

def next : Reading Reply := fun c =>
  match c.rest with
  | [] => (.error (Mismatch.tooShort c.position), c)
  | r :: rest => (.ok r, ⟨c.position + 1, rest⟩)

/-- The next element, which the cursor has passed even if it is not read as `read` has it. -/
def nextAs (read : Reply → Except Error α) : Reading α := do
  let r ← next
  liftM (read r)

def skip (n : Nat) : Reading Unit := fun c =>
  if c.remaining < n then (.error (Mismatch.cannotSkip n c.remaining), c)
  else (.ok (), ⟨c.position + n, c.rest.drop n⟩)

/-- The number of records of `stride` elements in what remains, which must hold nothing else. -/
def expectStride (stride : Nat) : Reading Nat := fun c =>
  if stride = 0 ∨ c.remaining % stride ≠ 0 then
    (.error (Mismatch.unevenRecords c.remaining stride), c)
  else (.ok (c.remaining / stride), c)

def records (record : Reading α) : Nat → Reading (List α)
  | 0 => pure []
  | n + 1 => do return (← record) :: (← records record n)

def remainder : Reading (List Reply) := fun c =>
  (.ok c.rest, ⟨c.position + c.remaining, []⟩)

end Reading

end FullText
