import FullText.Error
import FullText.Query.Interval

namespace FullText

inductive Value
  | scalar (text : String)
  | range (interval : Interval)
  | geo (area : GeoArea)
  | tags (names : List String)
deriving DecidableEq

namespace Value

/-- Whether the value may stand in one group with others of the same field. -/
def isCombinable : Value → Bool
  | scalar _ => true
  | _ => false

/-- A scalar stands as it is, with nothing escaped. -/
def text : Value → String
  | scalar s => s
  | range i => "[" ++ i.lower.text "inf" ++ " " ++ i.upper.text "inf" ++ "]"
  | geo area => "[" ++ " ".intercalate area.words ++ "]"
  | tags names => "\x7b" ++ " | ".intercalate names ++ "\x7d"

def between (lower upper : Binary64) : Value := .range (.closed lower upper)

/-- Includes or excludes the lower bound of a range. Other values have none. -/
def inclusiveLower (inclusive : Bool) : Value → Value
  | range i => .range { i with lower.exclusive := !inclusive }
  | other => other

def inclusiveUpper (inclusive : Bool) : Value → Value
  | range i => .range { i with upper.exclusive := !inclusive }
  | other => other

def eq (n : Binary64) : Value := between n n

def lt (n : Binary64) : Value := (between (.infinity true) n).inclusiveUpper false

def le (n : Binary64) : Value := between (.infinity true) n

def gt (n : Binary64) : Value := (between n (.infinity false)).inclusiveLower false

def ge (n : Binary64) : Value := between n (.infinity false)

def anyTag (names : List String) : Except Error Value :=
  if names.isEmpty then .error InvalidArgument.noTags else .ok (.tags names)

end Value

end FullText
