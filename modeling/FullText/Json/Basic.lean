import FullText.Number.Binary64

namespace FullText

/-- A number is whole if it was written so and 64 bits hold it. A string or a name that holds half
of a surrogate pair is no text: it is `unpaired`, or without a name. -/
inductive Json
  | null
  | bool (b : Bool)
  | integer (n : Int)
  | float (x : Binary64)
  | string (text : String)
  | unpaired
  | array (items : List Json)
  | object (members : List (Option String × Json))

namespace Json

def record (members : List (String × Json)) : Json :=
  .object (members.map fun m => (some m.1, m.2))

def ofNat (n : Nat) : Json := .integer n

/-- Numbers that no digits write are null. -/
def ofNumber (x : Binary64) : Json := if x.isFinite then .float x else .null

def ofOption (write : α → Json) : Option α → Json
  | none => .null
  | some a => write a

def ofList (write : α → Json) (as : List α) : Json := .array (as.map write)

def ofTexts : List String → Json := ofList .string

def variant (name : String) (content : Json) : Json := record [(name, content)]

end Json

end FullText
